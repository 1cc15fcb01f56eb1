import BuildNotices.Delivery.Publish
import BuildNotices.Proofs.Delivery.Request
import BuildNotices.Proofs.Text.Dictionary
/-!
The message that a request carries.

Both protocols carry the message of a notification, the newer one only so much of it as it
takes. A message that is cut ends in a mark, so it is not blank any more.
-/

namespace BuildNotices

open Text

def Body.message? : Body → Option String
  | .form pairs => pairs.lookup "message"
  | .document value => (value.member? "message").bind Json.text?

def Protocol.carriedText : Protocol → String → String
  | .v1, text => text
  | .v2, text => V2.truncate text

def Protocol.takesWhole : Protocol → String → Bool
  | .v1, _ => true
  | .v2, text => text.length ≤ V2.messageLimit

theorem Json.member?_record (name : String) (members : List (String × Json)) :
    (Json.record members).member? name = lastUnder? name members := by
  rw [← Dictionary.get?_ofList]
  rfl

theorem V2.message?_document (notification : Notification) :
    (Body.document (V2.document notification)).message? =
      some (V2.truncate notification.message) := by
  rw [Body.message?, V2.document, Json.member?_record, lastUnder?_append]
  have unmarked : lastUnder? "message"
      (notification.card.map fun card => ("card", V2.cardDocument card)).toList = none := by
    cases notification.card with
    | none => rfl
    | some card => rfl
  rw [unmarked]
  rfl

theorem message?_of_make {protocol : Protocol} {target : Target} {notification : Notification}
    {request : Request} (made : Request.make protocol target notification = .ok request) :
    request.body.message? = some (protocol.carriedText notification.message) := by
  cases protocol with
  | v1 =>
      obtain ⟨url, _, rest⟩ := exists_of_bind_eq_ok made
      split at rest
      next =>
        cases rest
        rfl
      next => cases rest
  | v2 =>
      obtain ⟨url, _, rest⟩ := exists_of_bind_eq_ok made
      split at rest
      next =>
        cases rest
        exact V2.message?_document notification
      next => cases rest

theorem V2.allBlank_truncate_of_long {text : String} (long : ¬ text.length ≤ messageLimit) :
    allBlank (truncate text) = false := by
  have marked : cutMark.toList.all isBlank = false := by decide
  rw [truncate, if_neg long, allBlank, String.toList_append, List.all_append, marked,
    Bool.and_false]

theorem allBlank_carriedText (protocol : Protocol) (text : String) :
    allBlank (protocol.carriedText text) = (allBlank text && protocol.takesWhole text) := by
  cases protocol with
  | v1 => exact (Bool.and_true _).symm
  | v2 =>
      rw [Protocol.carriedText, Protocol.takesWhole]
      by_cases short : text.length ≤ V2.messageLimit
      · rw [V2.truncate, if_pos short, decide_eq_true short, Bool.and_true]
      · rw [V2.allBlank_truncate_of_long short, decide_eq_false short, Bool.and_false]

end BuildNotices
