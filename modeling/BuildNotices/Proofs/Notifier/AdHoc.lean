import BuildNotices.Proofs.Delivery.Message
import BuildNotices.Proofs.Notifier.Policy
import BuildNotices.Proofs.Template.Blank
/-!
Blank messages by hand.

A message by hand is refused when its own text is blank. What is posted is the resolved text,
which is looked at no more: it is blank as well when nothing but blanks stands between
references, and none of these has a value that shows.
-/

namespace BuildNotices

open Text

namespace Notifier

def bindingsOf (notifier : Notifier) (moment : Moment) : Option Run → Variables
  | some run => run.allVariables notifier.settings.buildServer moment.now
  | none => .empty

section AdHoc

variable (notifier : Notifier) (moment : Moment) (message : AdHocMessage) (run : Option Run)

theorem message_compose :
    (notifier.compose moment message run).message =
      Template.resolve message.text (notifier.bindingsOf moment run) := by
  cases run with
  | none => rfl
  | some run => rfl

theorem sendMessage_of_blank (server : Server) (requests : List Request)
    (blank : allBlank message.text = true) :
    notifier.sendMessage server moment requests message run =
      { requests
        result :=
          if message.overrides.failOnError.getD notifier.settings.failOnError = true then
            .error .messageRequired
          else
            .ok none } := by
  rw [sendMessage, if_pos blank, underPolicy]
  simp only [NoticeError.isAlwaysReported, Bool.or_false]

/-- The text of a message decides whether anything is sent, and the resolved text is what every
room is sent then. The latter is blank where the former keeps only blanks and refers only to
blank values, unless it has been cut. -/
theorem sendMessage_posts_resolved_text (server : Server) (requests : List Request) :
    let destination := notifier.settings.destinationUnder message.overrides
    let bindings := notifier.bindingsOf moment run
    let attempt := notifier.sendMessage server moment requests message run
    (allBlank message.text = true →
      attempt =
        { requests
          result :=
            if message.overrides.failOnError.getD notifier.settings.failOnError = true then
              .error .messageRequired
            else
              .ok none }) ∧
      (allBlank message.text = false →
        ∃ issued, attempt.requests = requests ++ issued ∧
          (∀ token, destination.HasRoom →
            resolveToken notifier.credentials destination.credentialId destination.token
              destination.server = .ok token →
            notifier.settings.proxy.prepare = .ok () →
              issued = requestsFor destination.protocol (notifier.compose moment message run)
                (roomTargets destination.rooms destination.server token destination.sender)) ∧
          ∀ request ∈ issued, ∃ posted, request.body.message? = some posted ∧
            (allBlank posted = true ↔
              (∀ piece ∈ Template.pieces message.text.toList, piece.isBlank bindings = true) ∧
                destination.protocol.takesWhole (Template.resolve message.text bindings) =
                  true)) := by
  intro destination bindings attempt
  refine ⟨notifier.sendMessage_of_blank moment message run server requests, ?_⟩
  intro visible
  obtain ⟨issued, sent, origin⟩ := deliver_requests notifier server requests destination
    (notifier.compose moment message run)
  refine ⟨issued, ?_, ?_, ?_⟩
  · rw [← sent]
    simp only [attempt, sendMessage, visible, Bool.false_eq_true, if_false]
    rfl
  · intro token room resolved ready
    rw [deliver_of_resolved notifier server requests destination _ room resolved,
      publish_eq server _ _ fun _ => ready] at sent
    exact (List.append_cancel_left sent).symm
  · intro request member
    obtain ⟨_, _, target, _, made⟩ := origin request member
    refine ⟨_, message?_of_make made, ?_⟩
    rw [message_compose, allBlank_carriedText, Template.allBlank_resolve, Bool.and_eq_true,
      List.all_eq_true]

end AdHoc

def strictly (text : String) : AdHocMessage where
  text
  overrides := { rooms := some "ops", failOnError := some true }

theorem sendMessage_posts_greeting :
    allBlank (strictly "hi $\x7bNAME\x7d").text = false ∧
      ∃ issued,
        (twoRoomNotifier.sendMessage breakingServer default [] (strictly "hi $\x7bNAME\x7d")
            none).requests = [] ++ issued ∧
          ∀ request ∈ issued, ∃ posted,
            request.body.message? = some posted ∧ allBlank posted = false := by
  have visible : allBlank (strictly "hi $\x7bNAME\x7d").text = false := by decide
  obtain ⟨issued, sent, _, every⟩ := (sendMessage_posts_resolved_text twoRoomNotifier default
    (strictly "hi $\x7bNAME\x7d") none breakingServer []).2 visible
  refine ⟨visible, issued, sent, fun request member => ?_⟩
  obtain ⟨posted, found, blank⟩ := every request member
  refine ⟨posted, found, ?_⟩
  rw [Bool.eq_false_iff, ne_eq, blank]
  intro both
  exact absurd both.1 (by decide +kernel)

/-- A reference without value is all that the message has. -/
theorem sendMessage_posts_nothing_visible :
    (twoRoomNotifier.sendMessage breakingServer default [] (strictly "$\x7bNAME\x7d")
        none).requests.map (fun request => request.body.message?) = [some ""] ∧
      (twoRoomNotifier.sendMessage breakingServer default [] (strictly "$\x7bNAME\x7d")
        none).result.toOption = some (some ["ops"]) := by
  constructor
  · decide +kernel
  · decide +kernel

end Notifier
end BuildNotices
