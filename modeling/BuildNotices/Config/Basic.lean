import BuildNotices.Delivery.Proxy
import BuildNotices.Delivery.Request
import BuildNotices.Notification.Summary
import BuildNotices.Notification.Table
/-!
The configuration of the program.

Every setting has a default. A configuration is valid when it names a server, gives
requests some time, and has at most one entry for each category. Its secrets are the
tokens and the password of the proxy; a configuration that is shown has them masked.
-/

namespace BuildNotices

open Text

structure ChatSettings where
  server : String := "api.hipchat.com"
  token : Option String := none
  credentialId : Option String := none
  /-- The rooms, separated by commas. -/
  rooms : String := ""
  sender : String := "Build Server"
  /-- Whether the newer protocol is spoken. -/
  newer : Bool := true
  timeoutSeconds : Nat := 10
  cardBuilder : Option String := some CardBuilder.testSummary.name
  failOnError : Bool := false
  /-- The address of the build server, for runs whose address is relative. -/
  buildServer : Option String := none
deriving Repr, DecidableEq, Inhabited

namespace ChatSettings

def protocol (chat : ChatSettings) : Protocol :=
  .ofNewer chat.newer

def timeoutMilliseconds (chat : ChatSettings) : Nat :=
  1000 * chat.timeoutSeconds

end ChatSettings

def Config.defaultLogLevel : String := "info"

structure Config where
  chat : ChatSettings := {}
  proxy : ProxySettings := .environment
  logLevel : String := Config.defaultLogLevel
  /-- The explicit entries for categories. -/
  notifications : List CategorySettings := []
  /-- Tokens by their identifiers. -/
  credentials : Dictionary String := .empty
deriving Inhabited

namespace Config

def table (config : Config) : Except NoticeError NotificationTable :=
  NotificationTable.withDefaults config.notifications

def validate (config : Config) : Except NoticeError Unit := do
  if allBlank config.chat.server then
    throw (.configuration "hipchat.server must not be empty")
  if config.chat.timeoutSeconds = 0 then
    throw (.configuration "hipchat.timeout_secs must be greater than zero")
  let _ ← NotificationTable.ofEntries config.notifications

def redacted (config : Config) : Config :=
  { config with
    chat := { config.chat with token := config.chat.token.map fun _ => secretMask }
    proxy := config.proxy.redacted
    credentials := config.credentials.mapValues fun _ => secretMask }

end Config
end BuildNotices
