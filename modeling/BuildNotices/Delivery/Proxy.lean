import BuildNotices.Error
import BuildNotices.Json.Record
import BuildNotices.Url.Parser
/-!
Ways out of the network.

A proxy that is set by hand must have an address that is a URL with a host. Its
password is a secret and is masked when settings are shown.
-/

namespace BuildNotices

open Json Text

structure ManualProxy where
  host : String
  port : Nat
  username : Option String := none
  password : Option String := none
  /-- The hosts that are reached directly, separated by commas. -/
  bypass : Option String := none
deriving Repr, DecidableEq, Inhabited

inductive ProxySettings where
  /-- As the environment of the process says. -/
  | environment
  /-- Directly. -/
  | direct
  | manual (proxy : ManualProxy)
deriving Repr, DecidableEq, Inhabited

def secretMask : String := "********"

namespace ProxySettings

def mode : ProxySettings → String
  | .environment => "environment"
  | .direct => "none"
  | .manual _ => "manual"

def redacted : ProxySettings → ProxySettings
  | .manual proxy => .manual { proxy with password := proxy.password.map fun _ => secretMask }
  | other => other

end ProxySettings

namespace ManualProxy

def address (proxy : ManualProxy) : String :=
  let place := proxy.host ++ ":" ++ toString proxy.port
  if hasSchemeMark proxy.host then place else "http://" ++ place

def namesHost (url : Url) : Bool :=
  url.authority.any fun authority => authority.host ≠ .name ""

/-- Whether a text is the address of a proxy. A text without scheme or without host gets
a second chance as the address of a web server. -/
def isAddress (text : String) : Bool :=
  let again := match Url.parse ("http://" ++ text) with
    | .ok url => namesHost url
    | .error _ => false
  match Url.parse text with
  | .ok url => namesHost url || again
  | .error .missingScheme => again
  | .error _ => false

end ManualProxy

def ProxySettings.prepare : ProxySettings → Except NoticeError Unit
  | .manual proxy =>
      if ManualProxy.isAddress proxy.address then .ok ()
      else .error (.configuration ("Invalid proxy '" ++ proxy.address ++ "'"))
  | _ => .ok ()

/-! ### As JSON documents -/

namespace ManualProxy

def fields : List (RecordField ManualProxy) :=
  [ .mandatory "host" readText fun host proxy => { proxy with host },
    .mandatory "port" (readBelow 65536) fun port proxy => { proxy with port },
    .withDefault "username" (readOptional readText) fun username proxy =>
      { proxy with username },
    .withDefault "password" (readOptional readText) fun password proxy =>
      { proxy with password },
    .withDefault "no_proxy" (readOptional readText) fun bypass proxy => { proxy with bypass } ]

def read : Reader ManualProxy :=
  readRecord fields default

end ManualProxy

namespace ProxySettings

def ofMode? (mode : String) (rest : Json) (isEmpty : Bool) : Option ProxySettings :=
  match mode with
  | "environment" => if isEmpty then some .environment else none
  | "none" => if isEmpty then some .direct else none
  | "manual" => (decode? ManualProxy.read rest).map .manual
  | _ => none

/-- The settings that a document describes: an object with the mode among its members,
or an array with the mode in front. -/
def ofJson? (value : Json) : Option ProxySettings :=
  match value with
  | .object _ => ((value.member? "mode").bind text?).bind fun mode => ofMode? mode value true
  | .array (.string mode :: rest) => ofMode? mode (.array rest) rest.isEmpty
  | _ => none

def optionalMember (name : String) (text : Option String) : List (String × Json) :=
  (text.map fun text => (name, Json.string text)).toList

def toJson (settings : ProxySettings) : Json :=
  .object
    (("mode", .string settings.mode) ::
      match settings with
      | .manual proxy =>
          [("host", .string proxy.host), ("port", .integer proxy.port)] ++
            optionalMember "username" proxy.username ++
            optionalMember "password" proxy.password ++
            optionalMember "no_proxy" proxy.bypass
      | _ => [])

end ProxySettings
end BuildNotices
