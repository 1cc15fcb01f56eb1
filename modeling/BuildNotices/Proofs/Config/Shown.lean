import BuildNotices.Program
import BuildNotices.Proofs.Config.Reading
import BuildNotices.Proofs.Config.Redaction
import BuildNotices.Proofs.Delivery.Document
import BuildNotices.Proofs.Text.Dictionary
/-!
Configurations read back from what is shown.

The sections of a configuration form blocks with distinct names, so the document that is shown has
exactly their tables. Every part of the configuration is read back from its table: a setting that
was left out had no value, and in its place the reader keeps a default that has none either.
-/

namespace BuildNotices

open Text Toml

/-! ### Settings -/

@[simp] theorem allFit_optionalSetting (name : String) (text : Option String) :
    AllFit (optionalSetting name text) := by
  cases text with
  | none => exact allFit_nil
  | some text => simp [optionalSetting]

namespace ChatSettings

variable {chat : ChatSettings}

theorem lines_readable (writable : chat.IsWritable) : Readable chat.lines := by
  constructor
  · obtain ⟨server, token, credentialId, rooms, sender, newer, seconds, cardBuilder, failOnError,
      buildServer⟩ := chat
    cases token <;> cases credentialId <;> cases cardBuilder <;> cases buildServer <;>
      simp [lines, optionalSetting]
  · have timeout : Plain.Fits (.integer chat.timeoutSeconds) :=
      fits64_natural.mpr writable.timeout
    simp [lines, timeout]

/-- The settings are read back from their lines. -/
theorem ofToml_lines (writable : chat.IsWritable) : ofToml (tableOf chat.lines) = some chat := by
  obtain ⟨server, token, credentialId, rooms, sender, newer, seconds, cardBuilder, failOnError,
    buildServer⟩ := chat
  obtain ⟨builder, rfl⟩ := Option.isSome_iff_exists.mp writable.cardBuilder
  cases token <;> cases credentialId <;> cases buildServer <;> rfl

end ChatSettings

/-! ### Ways out of the network -/

namespace ProxySettings

variable {settings : ProxySettings}

theorem lines_readable (writable : settings.IsWritable) : Readable settings.lines := by
  cases settings with
  | environment => constructor <;> simp [lines]
  | direct => constructor <;> simp [lines]
  | manual proxy =>
      constructor
      · obtain ⟨host, port, username, password, bypass⟩ := proxy
        cases username <;> cases password <;> cases bypass <;> simp [lines, optionalSetting]
      · have port : Plain.Fits (.integer proxy.port) :=
          fits64_natural.mpr (Nat.lt_trans writable (by decide))
        simp [lines, port]

theorem decode?_manual {proxy : ManualProxy} (writable : proxy.IsWritable) :
    Json.decode? ManualProxy.read (tableOf (manual proxy).lines).toJson = some proxy := by
  obtain ⟨host, port, username, password, bypass⟩ := proxy
  have portRead : Json.readBelow 65536 126 (.ofJson (.integer port)) = .ok port :=
    Json.readBelow_integer writable
  have start (members : List (String × Json)) :
      Json.readMembers ManualProxy.fields 126
          (Json.Node.ofMembers (("mode", .string "manual") :: ("host", .string host) ::
            ("port", .integer port) :: members)) [] default =
        Json.readMembers ManualProxy.fields 126 (Json.Node.ofMembers members) ["port", "host"]
          { host, port } := by
    have hostRead : Json.readText 126 (.ofJson (.string host)) = .ok host := rfl
    have unknown : ManualProxy.fields.find? (fun field => field.name == "mode") = none := rfl
    rw [Json.readMembers_unknown unknown rfl,
      Json.readMembers_known rfl rfl hostRead, Json.readMembers_known rfl rfl portRead]
    rfl
  -- Only the port is compared with something, so behind it the reader computes by itself.
  cases username <;> cases password <;> cases bypass <;>
    exact Json.decode?_object ((start _).trans rfl) rfl

theorem ofJson?_manual {members : List (String × Json)} {proxy : ManualProxy}
    (mode : (Json.object members).member? "mode" = some (.string "manual"))
    (read : Json.decode? ManualProxy.read (.object members) = some proxy) :
    ofJson? (.object members) = some (.manual proxy) := by
  change (((Json.object members).member? "mode").bind Json.text?).bind
    (fun mode => ofMode? mode (.object members) true) = _
  rw [mode]
  change (Json.decode? ManualProxy.read (.object members)).map manual = _
  rw [read]
  rfl

theorem ofToml_lines (writable : settings.IsWritable) :
    ofToml (tableOf settings.lines) = some settings := by
  cases settings with
  | environment => rfl
  | direct => rfl
  | manual proxy => exact ofJson?_manual rfl (decode?_manual writable)

end ProxySettings

/-! ### Entries for categories -/

theorem Category.ofToml_name (category : Category) :
    ofToml (.string category.name) = some category :=
  readChoice_name category.mem_all (by decide)

theorem Color.ofToml_name (color : Color) : ofToml (.string color.name) = some color :=
  readChoice_name color.mem_all (by decide)

namespace CategorySettings

variable (settings : CategorySettings)

theorem lines_readable : Readable settings.lines := by
  constructor
  · cases icon : settings.icon <;> simp [lines, optionalSetting, icon]
  · simp [lines]

theorem ofToml_lines : ofToml (tableOf settings.lines) = some settings := by
  have category := Category.ofToml_name settings.category
  have color := Color.ofToml_name settings.color
  have start : ofToml (tableOf settings.lines) =
      readNamed (settings.lines.map fun line => (line.1, line.2.toValue)) tomlFields
        { category := .started, color := .yellow } := rfl
  have flag (value : Bool) : readFlag (.boolean value) = some value := rfl
  rw [start, tomlFields, readNamed_mandatory rfl category, readNamed_given rfl (flag _),
    readNamed_given rfl (flag _), readNamed_given rfl (flag _), readNamed_mandatory rfl color]
  obtain ⟨category, enabled, notify, plainText, color, icon, template⟩ := settings
  cases icon <;> rfl

end CategorySettings

theorem readLogLevel_lines (level : String) :
    readLogLevel (tableOf [("level", .string level)]) = some level := rfl

/-! ### Credentials -/

def credentialLines (credentials : Dictionary String) : List (String × Plain) :=
  credentials.entries.map fun (id, token) => (id, .string token)

theorem credentialLines_readable (credentials : Dictionary String) :
    Readable (credentialLines credentials) := by
  constructor
  · have names : (credentialLines credentials).map Prod.fst = credentials.entries.map Prod.fst := by
      unfold credentialLines
      rw [List.map_map]
      rfl
    rw [names]
    exact credentials.names_nodup
  · intro line member
    obtain ⟨entry, _, rfl⟩ := List.mem_map.mp member
    exact Plain.fits_string entry.2

theorem readTextMap_lines (credentials : Dictionary String) :
    readTextMap (tableOf (credentialLines credentials)) = some credentials := by
  have texts : (credentials.entries.map fun entry => (entry.1, Value.string entry.2)).mapM
      (fun entry => (readText entry.2).map fun text => (entry.1, text)) = some credentials.entries :=
    mapM_map_of_readable _ (fun entry => (entry.1, Value.string entry.2)) (fun _ => rfl)
      credentials.entries
  have entries : (tableOf (credentialLines credentials)).entries? =
      some (credentials.entries.map fun entry => (entry.1, Value.string entry.2)) := by
    unfold tableOf credentialLines
    rw [List.map_map]
    rfl
  unfold readTextMap
  rw [entries, Option.bind_eq_bind, Option.bind_some, texts, Option.bind_eq_bind, Option.bind_some,
    Dictionary.ofList_entries]
  rfl

/-! ### Whole configurations -/

namespace Config

variable {config : Config}

def notificationBlocks (config : Config) : List Block :=
  match config.notifications with
  | [] => []
  | first :: others => [.array "notifications" first.lines (others.map CategorySettings.lines)]

def credentialBlocks (config : Config) : List Block :=
  if config.credentials.isEmpty then []
  else [.table "credentials" (credentialLines config.credentials)]

def blocks (config : Config) : List Block :=
  .table "hipchat" config.chat.lines :: .table "proxy" config.proxy.lines ::
    .table "logging" [("level", .string config.logLevel)] ::
      (config.notificationBlocks ++ config.credentialBlocks)

theorem sections_eq_blocks (config : Config) :
    config.sections = config.blocks.flatMap Block.sections := by
  have notifications : config.notificationBlocks.flatMap Block.sections =
      config.notifications.map fun settings =>
        { name := "notifications", isElement := true, settings := settings.lines } := by
    unfold notificationBlocks
    cases config.notifications with
    | nil => rfl
    | cons first others => simp [Block.sections]
  have credentials : config.credentialBlocks.flatMap Block.sections =
      if config.credentials.isEmpty then []
      else [{ name := "credentials", settings := credentialLines config.credentials }] := by
    unfold credentialBlocks
    split
    · rfl
    · rfl
  unfold sections blocks
  rw [List.flatMap_cons, List.flatMap_cons, List.flatMap_cons, List.flatMap_append, notifications,
    credentials]
  rfl

theorem blocks_apart (config : Config) : (config.blocks.map Block.name).Nodup := by
  unfold blocks notificationBlocks credentialBlocks
  split <;> split <;> simp [Block.name]

theorem blocks_readable (writable : config.IsWritable) :
    ∀ block ∈ config.blocks, ∀ settings ∈ block.tables, Readable settings := by
  have single {name : String} {lines : List (String × Plain)} (readable : Readable lines) :
      ∀ settings ∈ (Block.table name lines).tables, Readable settings := by
    intro settings member
    cases List.mem_singleton.mp member
    exact readable
  have level : Readable [("level", Plain.string config.logLevel)] := by
    constructor <;> simp
  unfold blocks
  rw [List.forall_mem_cons, List.forall_mem_cons, List.forall_mem_cons, List.forall_mem_append]
  refine ⟨single (ChatSettings.lines_readable writable.chat),
    single (ProxySettings.lines_readable writable.proxy), single level, ?_, ?_⟩
  · unfold notificationBlocks
    split
    · exact List.forall_mem_nil _
    next first others _ =>
      intro block member
      cases List.mem_singleton.mp member
      intro settings among
      change settings ∈ (first :: others).map CategorySettings.lines at among
      obtain ⟨entry, _, rfl⟩ := List.mem_map.mp among
      exact entry.lines_readable
  · unfold credentialBlocks
    split
    · exact List.forall_mem_nil _
    · intro block member
      cases List.mem_singleton.mp member
      exact single (credentialLines_readable config.credentials)

theorem readList_lines (entries : List CategorySettings) :
    readList CategorySettings.ofToml (.array ((entries.map CategorySettings.lines).map tableOf)) =
      some entries := by
  have read := mapM_map_of_readable CategorySettings.ofToml
    (fun settings => tableOf (CategorySettings.lines settings)) CategorySettings.ofToml_lines entries
  rw [List.map_map]
  exact read

/-- A configuration is read back from its blocks. -/
theorem readNamed_blocks (writable : config.IsWritable) :
    readNamed (config.blocks.map fun block => (block.name, block.toValue)) tomlFields {} =
      some config := by
  have chat := ChatSettings.ofToml_lines writable.chat
  have proxy := ProxySettings.ofToml_lines writable.proxy
  have level := readLogLevel_lines config.logLevel
  have entries := readList_lines config.notifications
  have tokens := readTextMap_lines config.credentials
  obtain ⟨chatSettings, proxySettings, logLevel, notifications, credentials⟩ := config
  rw [tomlFields, readNamed_given rfl chat, readNamed_given rfl proxy, readNamed_given rfl level]
  unfold blocks notificationBlocks credentialBlocks
  dsimp only at entries tokens ⊢
  by_cases noTokens : credentials.isEmpty = true
  · rw [if_pos noTokens, Dictionary.eq_empty_of_isEmpty noTokens]
    cases notifications with
    | nil =>
        rw [readNamed_missing rfl, readNamed_missing rfl]
        rfl
    | cons first others =>
        rw [readNamed_given rfl entries, readNamed_missing rfl]
        rfl
  · rw [if_neg noTokens]
    cases notifications with
    | nil =>
        rw [readNamed_missing rfl, readNamed_given rfl tokens]
        rfl
    | cons first others =>
        rw [readNamed_given rfl entries, readNamed_given rfl tokens]
        rfl

/-- A valid configuration is read back from its sections. -/
theorem ofToml_render (writable : config.IsWritable) (valid : config.validate = .ok ())
    {behind : String} (silent : Performs behind some) :
    ofToml (Toml.render config.sections ++ behind) = .ok config := by
  have parsed : parse? (Toml.render (config.blocks.flatMap Block.sections) ++ behind) =
      some (config.blocks.map fun block => (block.name, block.toValue)) :=
    parse?_render config.blocks_apart (blocks_readable writable) silent
  rw [← sections_eq_blocks] at parsed
  unfold ofToml
  rw [parsed, Option.bind_some, readNamed_blocks writable]
  dsimp only
  rw [valid]
  rfl

/-! ### Redacted configurations -/

theorem redacted_writable (writable : config.IsWritable) : config.redacted.IsWritable := by
  obtain ⟨chat, proxy⟩ := writable
  refine ⟨⟨chat.timeout, chat.cardBuilder⟩, ?_⟩
  unfold redacted
  cases way : config.proxy with
  | environment => exact True.intro
  | direct => exact True.intro
  | manual settings =>
      rw [way] at proxy
      exact proxy

theorem redacted_validate (config : Config) : config.redacted.validate = config.validate := rfl

/-- What is shown of an accepted configuration is accepted again and yields the configuration with
its secrets masked, as the text alone and with the line end behind it that is printed. Shown once
more it looks the same. -/
theorem shown_config_is_accepted {text : String} (accepted : ofToml text = .ok config) :
    ofToml config.shown = .ok config.redacted ∧ config.redacted.shown = config.shown ∧
      ∀ surroundings path,
        ofToml (Program.carryOut surroundings { path, config } .showConfig).output =
            .ok config.redacted ∧
          Program.carryOut surroundings { path, config := config.redacted } .showConfig =
            Program.carryOut surroundings { path, config } .showConfig := by
  obtain ⟨writable, valid⟩ := writable_of_ofToml accepted
  have masked := redacted_writable writable
  have stillValid : config.redacted.validate = .ok () := by
    rw [redacted_validate]
    exact valid
  have again : config.redacted.shown = config.shown := by
    unfold shown
    rw [redacted_redacted]
  have plain := ofToml_render masked stillValid Performs.empty
  have printed := ofToml_render masked stillValid Performs.feed
  rw [String.append_empty] at plain
  refine ⟨plain, again, fun surroundings path => ⟨printed, ?_⟩⟩
  unfold Program.carryOut
  rw [again]

def documentWithSecrets : String :=
  "hipchat.auth_token = 'abc'\ncredentials = \x7b'x y' = 'def'\x7d\n" ++
    "[proxy]\nmode = 'manual'\nhost = 'p'\nport = 80\npassword = 'ghi'\n"

theorem shown_config_is_accepted_with_secrets :
    ∃ config, ofToml documentWithSecrets = .ok config ∧ config.chat.token = some "abc" ∧
      ofToml config.shown = .ok config.redacted ∧ config.redacted.shown = config.shown ∧
      ∀ surroundings path,
        ofToml (Program.carryOut surroundings { path, config } .showConfig).output =
            .ok config.redacted ∧
          Program.carryOut surroundings { path, config := config.redacted } .showConfig =
            Program.carryOut surroundings { path, config } .showConfig := by
  have token : (ofToml documentWithSecrets).toOption.map (fun config => config.chat.token) =
      some (some "abc") := by
    decide +kernel
  cases accepted : ofToml documentWithSecrets with
  | error error =>
      rw [accepted] at token
      cases token
  | ok config =>
      rw [accepted] at token
      exact ⟨config, rfl, Option.some.inj token, shown_config_is_accepted accepted⟩

end Config
end BuildNotices
