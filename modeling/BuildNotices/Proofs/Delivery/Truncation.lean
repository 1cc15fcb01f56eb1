import BuildNotices.Proofs.Delivery.Document
/-!
Messages cut to the limit.

The limit counts characters, however many bytes each of them takes. A message within it is shown
as it is. A longer one fills the limit exactly: its beginning stays and the mark stands for the
rest, so of two longer messages only the beginnings can be told apart.
-/

namespace BuildNotices
namespace V2

/-- How many characters of a message that is cut are shown in front of the mark. -/
def keptLength : Nat := messageLimit - cutMark.length

theorem toList_truncate_of_long {text : String} (long : messageLimit < text.length) :
    (truncate text).toList = text.toList.take keptLength ++ cutMark.toList := by
  rw [truncate, if_neg (Nat.not_le.mpr long), String.toList_append, String.toList_ofList,
    keptLength]

theorem truncate_eq_self_iff {text : String} :
    truncate text = text ↔ text.length ≤ messageLimit := by
  constructor
  · intro same
    rw [← same]
    exact length_truncate_le text
  · intro short
    rw [truncate, if_pos short]

theorem truncate_eq_truncate_iff {first second : String} (firstLong : messageLimit < first.length)
    (secondLong : messageLimit < second.length) :
    truncate first = truncate second ↔
      first.toList.take keptLength = second.toList.take keptLength := by
  rw [← String.toList_inj, toList_truncate_of_long firstLong, toList_truncate_of_long secondLong,
    List.append_left_inj]

theorem message_member (notification : Notification) :
    (document notification).member? "message" =
      some (.string (truncate notification.message)) := by
  rw [member?_document]
  rfl

/-- The message that a document shows has at most ten thousand characters. It is the message of
the notification if that fits; of a longer one it shows the first 9997 characters and three dots,
and only these characters matter. Cutting it once more changes nothing. -/
theorem shown_message_fits (notification : Notification) :
    ∃ shown, (document notification).member? "message" = some (.string shown) ∧
      shown.length ≤ 10000 ∧
      (shown = notification.message ↔ notification.message.length ≤ 10000) ∧
      (10000 < notification.message.length →
        shown = String.ofList (notification.message.toList.take 9997) ++ "...") ∧
      truncate shown = shown ∧
      ∀ other : Notification, 10000 < notification.message.length → 10000 < other.message.length →
        ((document other).member? "message" = some (.string shown) ↔
          other.message.toList.take 9997 = notification.message.toList.take 9997) := by
  refine ⟨truncate notification.message, message_member notification,
    length_truncate_le notification.message, truncate_eq_self_iff, ?_,
    truncate_truncate notification.message, ?_⟩
  · intro long
    have cut : ¬ notification.message.length ≤ messageLimit := Nat.not_le.mpr long
    rw [truncate, if_neg cut]
    rfl
  · intro other long otherLong
    rw [message_member, Option.some.injEq, Json.string.injEq]
    exact truncate_eq_truncate_iff otherLong long

/-- Two messages of characters of two bytes that differ only behind what is kept. -/
theorem shown_message_of_late_difference :
    let message (last : Char) : String := String.ofList (List.replicate 9997 'é' ++
      List.replicate 4 last)
    let notification (last : Char) : Notification :=
      { message := message last, color := .green, notify := false, format := .text }
    message '1' ≠ message '2' ∧ 10000 < (message '1').length ∧ 10000 < (message '2').length ∧
      (document (notification '2')).member? "message" =
        (document (notification '1')).member? "message" := by
  intro message notification
  have different : message '1' ≠ message '2' := by
    intro same
    have tails := List.append_cancel_left (String.ofList_injective same)
    exact absurd tails (by decide)
  have long (last : Char) : 10000 < (message last).length := by
    rw [String.length_ofList, List.length_append, List.length_replicate, List.length_replicate]
    decide
  have kept (last : Char) : (message last).toList.take 9997 = List.replicate 9997 'é' := by
    rw [String.toList_ofList, List.take_left' List.length_replicate]
  obtain ⟨shown, member, _, _, _, _, told⟩ := shown_message_fits (notification '1')
  refine ⟨different, long '1', long '2', ?_⟩
  rw [member]
  exact (told (notification '2') (long '1') (long '2')).mpr ((kept '2').trans (kept '1').symm)

end V2
end BuildNotices
