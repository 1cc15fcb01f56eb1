import BuildNotices.Config.Basic
import BuildNotices.Toml.Parser
import BuildNotices.Toml.Printer
import BuildNotices.Toml.Reader
/-!
Configurations as documents.

A configuration is read from a TOML document and shown as one. Settings that are left
out of the document have their defaults, and a setting without value is left out when
the configuration is shown.
-/

namespace BuildNotices

open Toml

/-! ### Reading -/

def Category.ofToml : Toml.Reader Category :=
  readChoice (Category.all.map fun category => (category.name, category))

def Color.ofToml : Toml.Reader Color :=
  readChoice (Color.all.map fun color => (color.name, color))

def CategorySettings.tomlFields : List (Toml.RecordField CategorySettings) :=
  [ .mandatory "category" Category.ofToml fun category settings => { settings with category },
    .withDefault "enabled" readFlag fun enabled settings => { settings with enabled },
    .withDefault "notify" readFlag fun notify settings => { settings with notify },
    .withDefault "text_format" readFlag fun plainText settings => { settings with plainText },
    .mandatory "color" Color.ofToml fun color settings => { settings with color },
    .withDefault "icon" readText fun icon settings => { settings with icon := some icon },
    .withDefault "message_template" readText fun template settings =>
      { settings with template } ]

def CategorySettings.ofToml : Toml.Reader CategorySettings :=
  readRecord tomlFields { category := .started, color := .yellow }

def ChatSettings.tomlFields : List (Toml.RecordField ChatSettings) :=
  [ .withDefault "server" readText fun server chat => { chat with server },
    .withDefault "auth_token" readText fun token chat => { chat with token := some token },
    .withDefault "credential_id" readText fun id chat => { chat with credentialId := some id },
    .withDefault "room" readText fun rooms chat => { chat with rooms },
    .withDefault "send_as" readText fun sender chat => { chat with sender },
    .withDefault "v2_enabled" readFlag fun newer chat => { chat with newer },
    .withDefault "timeout_secs" readNatural fun seconds chat =>
      { chat with timeoutSeconds := seconds },
    .withDefault "card_provider" readText fun name chat => { chat with cardBuilder := some name },
    .withDefault "fail_on_error" readFlag fun failOnError chat => { chat with failOnError },
    .withDefault "build_server_url" readText fun address chat =>
      { chat with buildServer := some address } ]

def ChatSettings.ofToml : Toml.Reader ChatSettings :=
  readRecord tomlFields {}

def ProxySettings.ofToml : Toml.Reader ProxySettings := fun value =>
  ProxySettings.ofJson? value.toJson

def readLogLevel : Toml.Reader String :=
  readRecord [.withDefault "level" readText fun level _ => level] Config.defaultLogLevel

namespace Config

def tomlFields : List (Toml.RecordField Config) :=
  [ .withDefault "hipchat" ChatSettings.ofToml fun chat config => { config with chat },
    .withDefault "proxy" ProxySettings.ofToml fun proxy config => { config with proxy },
    .withDefault "logging" readLogLevel fun logLevel config => { config with logLevel },
    .withDefault "notifications" (readList CategorySettings.ofToml) fun notifications config =>
      { config with notifications },
    .withDefault "credentials" readTextMap fun credentials config =>
      { config with credentials } ]

/-- What is said of a text that describes no configuration. Words for the several mistakes and
their places are the business of the reader of TOML and not told apart here. -/
def unreadableDocument : String := "no configuration can be read from the text"

def ofToml (text : String) : Except NoticeError Config :=
  match (Toml.parse? text).bind fun entries => readNamed entries tomlFields {} with
  | none => .error (.malformedToml unreadableDocument)
  | some config => do
      config.validate
      return config

end Config

/-! ### Writing -/

def optionalSetting (name : String) (text : Option String) : List (String × Plain) :=
  (text.map fun text => (name, Plain.string text)).toList

def ChatSettings.lines (chat : ChatSettings) : List (String × Plain) :=
  [("server", .string chat.server)] ++
    optionalSetting "auth_token" chat.token ++
    optionalSetting "credential_id" chat.credentialId ++
    [ ("room", .string chat.rooms),
      ("send_as", .string chat.sender),
      ("v2_enabled", .boolean chat.newer),
      ("timeout_secs", .integer chat.timeoutSeconds) ] ++
    optionalSetting "card_provider" chat.cardBuilder ++
    [("fail_on_error", .boolean chat.failOnError)] ++
    optionalSetting "build_server_url" chat.buildServer

def ProxySettings.lines (settings : ProxySettings) : List (String × Plain) :=
  ("mode", .string settings.mode) ::
    match settings with
    | .manual proxy =>
        [("host", .string proxy.host), ("port", .integer proxy.port)] ++
          optionalSetting "username" proxy.username ++
          optionalSetting "password" proxy.password ++
          optionalSetting "no_proxy" proxy.bypass
    | _ => []

def CategorySettings.lines (settings : CategorySettings) : List (String × Plain) :=
  [ ("category", .string settings.category.name),
    ("enabled", .boolean settings.enabled),
    ("notify", .boolean settings.notify),
    ("text_format", .boolean settings.plainText),
    ("color", .string settings.color.name) ] ++
    optionalSetting "icon" settings.icon ++
    [("message_template", .string settings.template)]

namespace Config

def sections (config : Config) : List Section :=
  [ { name := "hipchat", settings := config.chat.lines },
    { name := "proxy", settings := config.proxy.lines },
    { name := "logging", settings := [("level", .string config.logLevel)] } ] ++
    (config.notifications.map fun settings =>
      { name := "notifications", isElement := true, settings := settings.lines }) ++
    (if config.credentials.isEmpty then []
      else
        [ { name := "credentials"
            settings := config.credentials.entries.map fun (id, token) => (id, .string token) } ])

def shown (config : Config) : String :=
  Toml.render config.redacted.sections

end Config
end BuildNotices
