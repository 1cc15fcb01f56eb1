import BuildNotices.Delivery.Endpoint
import BuildNotices.Delivery.Room
import BuildNotices.Json.Printer
import BuildNotices.Notification.Basic
/-!
Requests to the chat server.

There are two protocols. The older one posts a form to one address for all rooms and
puts the token into the query. The newer one posts a JSON document to an address of
the room and shows the token in a header; it takes only short messages, and it can
carry a card.
-/

namespace BuildNotices

inductive Protocol where
  | v1
  | v2
deriving Repr, DecidableEq, Inhabited

namespace Protocol

def name : Protocol → String
  | .v1 => "v1"
  | .v2 => "v2"

def ofNewer (newer : Bool) : Protocol :=
  if newer then .v2 else .v1

end Protocol

inductive Body where
  | form (pairs : List (String × String))
  | document (value : Json)
deriving Repr, Inhabited

namespace Body

def text : Body → String
  | .form pairs => Url.formEncode pairs
  | .document value => value.compact

end Body

structure Request where
  url : Url
  /-- The token that is shown in a header, if one is. -/
  bearer : Option String
  body : Body
deriving Repr, Inhabited

/-! ### The older protocol -/

namespace V1

def address (target : Target) : Except NoticeError Url := do
  let base ← serverUrl target.server
  let url ← endpoint base ["v1", "rooms", "message"]
  return url.appendQuery ("auth_token", target.token)

def form (target : Target) (notification : Notification) : List (String × String) :=
  [ ("from", target.sender),
    ("room_id", target.room),
    ("message", notification.message),
    ("color", notification.color.name),
    ("notify", if notification.notify then "1" else "0") ]

end V1

/-! ### The newer protocol -/

namespace V2

/-- The longest message that is taken, in characters. -/
def messageLimit : Nat := 10000

def cutMark : String := "..."

def truncate (message : String) : String :=
  if message.length ≤ messageLimit then
    message
  else
    String.ofList (message.toList.take (messageLimit - cutMark.length)) ++ cutMark

def address (target : Target) : Except NoticeError Url := do
  let base ← serverUrl target.server
  endpoint base ["v2", "room", target.room, "notification"]

def attributeDocument (line : CardAttribute) : Json :=
  .record
    [ ("label", .string line.label),
      ("value", .record
        (("label", .string line.value) ::
          (line.style.map fun style => ("style", Json.string style.name)).toList ++
          (line.url.map fun url => ("url", Json.string url)).toList)) ]

def cardDocument (card : Card) : Json :=
  let icon := Json.record [("url", .string card.icon)]
  .record
    [ ("style", .string card.style),
      ("url", .string card.url),
      ("format", .string card.format),
      ("id", .string card.id),
      ("title", .string card.title),
      ("icon", icon),
      ("attributes", .array (card.attributes.map attributeDocument)),
      ("activity", .record [("html", .string card.activityHtml), ("icon", icon)]) ]

def document (notification : Notification) : Json :=
  .record
    ([ ("message", .string (truncate notification.message)),
       ("color", .string notification.color.name),
       ("notify", .boolean notification.notify),
       ("message_format", .string notification.format.name) ] ++
      (notification.card.map fun card => ("card", cardDocument card)).toList)

end V2

/-! ### Requests for a target -/

def fitsHeader (text : String) : Bool :=
  text.toList.all fun c => c = '\t' || (0x20 ≤ c.toNat && c.toNat ≠ 0x7F)

def isWebAddress (url : Url) : Bool :=
  url.scheme = "http" || url.scheme = "https"

/-- The request that takes a notification to a target. It cannot be made without an
address, for an address outside the web, or with a token that fits no header.

It is assumed that the client takes every other address as it stands. A client may refuse a host
with braces, quotes or backticks and an address of more than 65534 bytes, it makes a header of its
own from a user name in the address, and it follows redirects. -/
def Request.make (protocol : Protocol) (target : Target) (notification : Notification) :
    Except NoticeError Request :=
  match protocol with
  | .v1 => do
      let url ← V1.address target
      if isWebAddress url then
        return { url, bearer := none, body := .form (V1.form target notification) }
      throw (.transport target.room)
  | .v2 => do
      let url ← V2.address target
      if isWebAddress url && fitsHeader target.token then
        return { url, bearer := some target.token, body := .document (V2.document notification) }
      throw (.transport target.room)

end BuildNotices
