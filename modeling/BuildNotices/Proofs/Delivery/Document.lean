import BuildNotices.Notification.Basic
import BuildNotices.Proofs.Delivery.FanOut
import BuildNotices.Proofs.Delivery.Message
import BuildNotices.Proofs.Json.Pretty
/-!
The documents of notifications.

A notification can be read back from its document, card and attributes included. Only the end of a
message that is too long is lost, so two notifications have one document exactly when they differ
in nothing else. The requests of the newer protocol depend on the document alone, and it can be
told from its text.
-/

namespace BuildNotices

open Text

/-! ### Reading members -/

namespace Json

variable {α : Type}

def flag? : Json → Option Bool
  | .boolean value => some value
  | _ => none

def required? (read : Json → Option α) (name : String) (document : Json) : Option α :=
  (document.member? name).bind read

/-- Reads a member that may be missing; one that is there has to be readable. -/
def optional? (read : Json → Option α) (name : String) (document : Json) : Option (Option α) :=
  match document.member? name with
  | none => some none
  | some value => (read value).map some

def items? (read : Json → Option α) : Json → Option (List α)
  | .array items => items.mapM read
  | _ => none

def choice? (all : List α) (name : α → String) (document : Json) : Option α :=
  document.text?.bind fun text => all.find? fun choice => name choice == text

theorem items?_array_map {read : Json → Option α} {write : α → Json}
    (readable : ∀ item, read (write item) = some item) (items : List α) :
    items? read (.array (items.map write)) = some items :=
  mapM_map_of_readable read write readable items

theorem choice?_name {all : List α} {name : α → String} {choice : α} (listed : choice ∈ all)
    (distinct : ∀ first ∈ all, ∀ second ∈ all, name first = name second → first = second) :
    choice? all name (.string (name choice)) = some choice :=
  find?_name listed distinct

theorem lastUnder?_optional (name key : String) (write : α → Json) (value : Option α) :
    lastUnder? name (value.map fun value => (key, write value)).toList =
      if key = name then value.map write else none := by
  cases value with
  | none => simp [lastUnder?]
  | some value => simp [lastUnder?]

theorem required?_record {read : Json → Option α} {name : String}
    {members : List (String × Json)} {value : Json} (found : lastUnder? name members = some value) :
    required? read name (record members) = read value := by
  rw [required?, member?_record, found, Option.bind_some]

theorem requiredText?_record {name text : String} {members : List (String × Json)}
    (found : lastUnder? name members = some (.string text)) :
    required? text? name (record members) = some text :=
  required?_record found

/-- A member that is written only for a value is read only where it was written. -/
theorem optional?_of_member {read : Json → Option α} {write : α → Json}
    (readable : ∀ value, read (write value) = some value) {name : String} {document : Json}
    {value : Option α} (written : document.member? name = value.map write) :
    optional? read name document = some value := by
  rw [optional?, written]
  cases value with
  | none => rfl
  | some value => exact congrArg (Option.map some) (readable value)

end Json

theorem Color.mem_all (color : Color) : color ∈ all := by
  cases color <;> decide

theorem MessageFormat.mem_all (format : MessageFormat) : format ∈ all := by
  cases format <;> decide

theorem AttributeStyle.mem_all (style : AttributeStyle) : style ∈ all := by
  cases style <;> decide

namespace V2

open Json

/-! ### Reading notifications -/

def style? : Json → Option AttributeStyle :=
  choice? AttributeStyle.all AttributeStyle.name

def color? : Json → Option Color :=
  choice? Color.all Color.name

def format? : Json → Option MessageFormat :=
  choice? MessageFormat.all MessageFormat.name

def attribute? (document : Json) : Option CardAttribute := do
  let value ← document.member? "value"
  return {
    label := ← document.required? text? "label"
    value := ← value.required? text? "label"
    style := ← value.optional? style? "style"
    url := ← value.optional? text? "url" }

/-- The icon is said twice, and read where it is said first. -/
def card? (document : Json) : Option Card := do
  let icon ← document.member? "icon"
  let activity ← document.member? "activity"
  return {
    style := ← document.required? text? "style"
    url := ← document.required? text? "url"
    format := ← document.required? text? "format"
    id := ← document.required? text? "id"
    title := ← document.required? text? "title"
    icon := ← icon.required? text? "url"
    attributes := ← document.required? (items? attribute?) "attributes"
    activityHtml := ← activity.required? text? "html" }

def notification? (document : Json) : Option Notification := do
  return {
    message := ← document.required? text? "message"
    color := ← document.required? color? "color"
    notify := ← document.required? flag? "notify"
    format := ← document.required? format? "message_format"
    card := ← document.optional? card? "card" }

theorem style?_name (style : AttributeStyle) : style? (.string style.name) = some style :=
  choice?_name style.mem_all (by decide)

theorem color?_name (color : Color) : color? (.string color.name) = some color :=
  choice?_name color.mem_all (by decide)

theorem format?_name (format : MessageFormat) : format? (.string format.name) = some format :=
  choice?_name format.mem_all (by decide)

theorem text?_string (text : String) : text? (.string text) = some text := rfl

def valueMembers (line : CardAttribute) : List (String × Json) :=
  ("label", .string line.value) ::
    (line.style.map fun style => ("style", Json.string style.name)).toList ++
    (line.url.map fun url => ("url", Json.string url)).toList

theorem member?_valueMembers (line : CardAttribute) (name : String) :
    (Json.record (valueMembers line)).member? name =
      (if "url" = name then line.url.map Json.string else none).or
        ((if "style" = name then line.style.map fun style => Json.string style.name else none).or
          (if "label" = name then some (.string line.value) else none)) := by
  rw [member?_record, valueMembers, lastUnder?_append, lastUnder?, lastUnder?_optional,
    lastUnder?_optional]

theorem attribute?_attributeDocument (line : CardAttribute) :
    attribute? (attributeDocument line) = some line := by
  have whole : attributeDocument line = .record
      [("label", .string line.label), ("value", .record (valueMembers line))] := rfl
  have inner : (attributeDocument line).member? "value" = some (.record (valueMembers line)) := by
    rw [whole, member?_record]
    rfl
  have label : (attributeDocument line).required? text? "label" = some line.label := by
    rw [whole]
    exact requiredText?_record rfl
  have value : (Json.record (valueMembers line)).required? text? "label" = some line.value := by
    rw [required?, member?_valueMembers]
    rfl
  have style : (Json.record (valueMembers line)).optional? style? "style" = some line.style :=
    optional?_of_member style?_name (by simp [member?_valueMembers])
  have url : (Json.record (valueMembers line)).optional? text? "url" = some line.url :=
    optional?_of_member text?_string (by simp [member?_valueMembers])
  simp only [attribute?, inner, label, value, style, url, Option.bind_eq_bind, Option.bind_some]
  rfl

theorem card?_cardDocument (card : Card) : card? (cardDocument card) = some card := by
  have style : (cardDocument card).required? text? "style" = some card.style :=
    requiredText?_record rfl
  have url : (cardDocument card).required? text? "url" = some card.url :=
    requiredText?_record rfl
  have format : (cardDocument card).required? text? "format" = some card.format :=
    requiredText?_record rfl
  have id : (cardDocument card).required? text? "id" = some card.id :=
    requiredText?_record rfl
  have title : (cardDocument card).required? text? "title" = some card.title :=
    requiredText?_record rfl
  have attributes : (cardDocument card).required? (items? attribute?) "attributes" =
      some card.attributes := by
    unfold cardDocument
    rw [required?_record rfl]
    exact items?_array_map attribute?_attributeDocument card.attributes
  have icon : (cardDocument card).member? "icon" =
      some (.record [("url", .string card.icon)]) := by
    unfold cardDocument
    rw [member?_record]
    rfl
  have activity : (cardDocument card).member? "activity" =
      some (.record [("html", .string card.activityHtml),
        ("icon", .record [("url", .string card.icon)])]) := by
    unfold cardDocument
    rw [member?_record]
    rfl
  have iconUrl : (Json.record [("url", .string card.icon)]).required? text? "url" =
      some card.icon :=
    requiredText?_record rfl
  have html : (Json.record [("html", .string card.activityHtml),
      ("icon", .record [("url", .string card.icon)])]).required? text? "html" =
        some card.activityHtml :=
    requiredText?_record rfl
  simp only [card?, style, url, format, id, title, attributes, icon, activity, iconUrl, html,
    Option.bind_eq_bind, Option.bind_some]
  rfl

/-! ### What a document keeps -/

def cut (notification : Notification) : Notification :=
  { notification with message := truncate notification.message }

def fixedMembers (notification : Notification) : List (String × Json) :=
  [ ("message", .string (truncate notification.message)),
    ("color", .string notification.color.name),
    ("notify", .boolean notification.notify),
    ("message_format", .string notification.format.name) ]

theorem member?_document (notification : Notification) (name : String) :
    (document notification).member? name =
      (if "card" = name then notification.card.map cardDocument else none).or
        (lastUnder? name (fixedMembers notification)) := by
  have whole : document notification = .record (fixedMembers notification ++
      (notification.card.map fun card => ("card", cardDocument card)).toList) := rfl
  rw [whole, member?_record, lastUnder?_append, lastUnder?_optional]

theorem notification?_document (notification : Notification) :
    notification? (document notification) = some (cut notification) := by
  have message : (document notification).required? text? "message" =
      some (truncate notification.message) := by
    rw [required?, member?_document]
    rfl
  have color : (document notification).required? color? "color" = some notification.color := by
    rw [required?, member?_document]
    exact color?_name notification.color
  have notify : (document notification).required? flag? "notify" = some notification.notify := by
    rw [required?, member?_document]
    rfl
  have format : (document notification).required? format? "message_format" =
      some notification.format := by
    rw [required?, member?_document]
    exact format?_name notification.format
  have card : (document notification).optional? card? "card" = some notification.card := by
    refine optional?_of_member card?_cardDocument ?_
    rw [member?_document]
    exact Option.or_none
  simp only [notification?, message, color, notify, format, card, Option.bind_eq_bind,
    Option.bind_some]
  rfl

theorem length_truncate_le (text : String) : (truncate text).length ≤ messageLimit := by
  unfold truncate
  split
  next short => exact short
  next long =>
    have kept : (text.toList.take (messageLimit - cutMark.length)).length ≤
        messageLimit - cutMark.length :=
      List.length_take_le _ _
    rw [String.length_append, String.length_ofList]
    exact Nat.add_le_of_le_sub (by decide) kept

theorem truncate_truncate (text : String) : truncate (truncate text) = truncate text := by
  rw [truncate, if_pos (length_truncate_le text)]

theorem document_cut (notification : Notification) :
    document (cut notification) = document notification := by
  rw [document, document, cut, truncate_truncate]

/-- A document says everything about its notification but the end of a message that is too
long. -/
theorem document_loses_only_the_tail :
    (∀ notification, notification? (document notification) = some (cut notification)) ∧
      ∀ first second, document first = document second ↔ cut first = cut second := by
  refine ⟨notification?_document, fun first second => ⟨fun same => ?_, fun same => ?_⟩⟩
  · have read : some (cut first) = some (cut second) := by
      rw [← notification?_document, same, notification?_document]
    exact Option.some.inj read
  · rw [← document_cut first, same, document_cut]

/-! ### Documents as texts -/

theorem numberFree_optional {α : Type} {write : α → Json}
    (written : ∀ value, NumberFree (write value)) (key : String) (value : Option α) :
    ∀ member ∈ (value.map fun value => (key, write value)).toList, NumberFree member.2 := by
  cases value with
  | none => simp
  | some value => simpa using written value

theorem numberFree_attributeDocument (line : CardAttribute) :
    NumberFree (attributeDocument line) := by
  have inner : NumberFree (.record (valueMembers line)) := by
    apply numberFree_record
    rw [valueMembers, List.forall_mem_append, List.forall_mem_cons]
    exact ⟨⟨.string _, numberFree_optional (fun _ => .string _) "style" line.style⟩,
      numberFree_optional (fun _ => .string _) "url" line.url⟩
  apply numberFree_record
  rw [List.forall_mem_cons, List.forall_mem_singleton]
  exact ⟨.string _, inner⟩

theorem numberFree_cardDocument (card : Card) : NumberFree (cardDocument card) := by
  have icon : NumberFree (.record [("url", .string card.icon)]) :=
    numberFree_record (by simp [NumberFree.string])
  have attributes : NumberFree (.array (card.attributes.map attributeDocument)) :=
    .array (by simp [numberFree_attributeDocument])
  have activity : NumberFree (.record [("html", .string card.activityHtml),
      ("icon", .record [("url", .string card.icon)])]) :=
    numberFree_record (by simp [NumberFree.string, icon])
  exact numberFree_record (by simp [NumberFree.string, icon, attributes, activity])

theorem numberFree_document (notification : Notification) :
    NumberFree (document notification) := by
  apply numberFree_record
  rw [List.forall_mem_append]
  exact ⟨by simp [NumberFree.string, NumberFree.boolean],
    numberFree_optional numberFree_cardDocument "card" notification.card⟩

end V2

/-! ### Requests with the same document -/

theorem Request.make_v2 (target : Target) (notification : Notification) :
    make .v2 target notification =
      (V2.address target >>= fun url =>
        if isWebAddress url && fitsHeader target.token then
          .ok { url, bearer := some target.token, body := .document (V2.document notification) }
        else
          .error (.transport target.room)) := rfl

theorem document_of_make {target : Target} {notification : Notification} {request : Request}
    (made : Request.make .v2 target notification = .ok request) :
    request.body = .document (V2.document notification) := by
  rw [Request.make_v2] at made
  obtain ⟨url, _, rest⟩ := exists_of_bind_eq_ok made
  split at rest
  next =>
    cases rest
    rfl
  next => cases rest

section Documents

variable {first second : Notification}

theorem Request.make_congr (same : V2.document first = V2.document second) (target : Target) :
    make .v2 target first = make .v2 target second := by
  rw [make_v2, make_v2, same]

theorem requestsFor_congr (same : V2.document first = V2.document second)
    (targets : List Target) :
    requestsFor .v2 first targets = requestsFor .v2 second targets := by
  simp only [requestsFor, Request.make_congr same]

end Documents

end BuildNotices
