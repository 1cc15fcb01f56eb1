import BuildNotices.Proofs.Delivery.FanOut
import Mathlib.Data.List.Infix
/-!
The rooms that accept a message.

Whether a room accepts is read off the requests that were sent and the answers to them, and
off nothing that is reported. A delivery succeeds exactly when every room that it is for
accepts, and then it reports those that do.
-/

namespace BuildNotices

instance (protocol : Protocol) (answer : Answer) : Decidable (protocol.Confirms answer) :=
  match protocol, answer with
  | .v1, .failure => isFalse id
  | .v2, .failure => isFalse id
  | .v1, .response status body =>
      inferInstanceAs (Decidable (status = 200 ∧ "sent".toList <:+: body.toList))
  | .v2, .response status _ => inferInstanceAs (Decidable (status = 204))

section Acceptance

variable (server : Server) (protocol : Protocol) (notification : Notification)

/-- A target has a request, this was sent behind those of the targets before it, and the
answer to it confirms. -/
def Accepts (sent : List Request) (before : List Target) (target : Target) : Prop :=
  (Request.make protocol target notification).isOk = true ∧
    (requestsFor protocol notification before).length < sent.length ∧
    protocol.Confirms
      (server (sent.take ((requestsFor protocol notification before).length + 1)))

instance (sent : List Request) (before : List Target) (target : Target) :
    Decidable (Accepts server protocol notification sent before target) :=
  inferInstanceAs (Decidable (_ ∧ _ ∧ _))

def acceptingRooms (sent : List Request) (targets : List Target) : List String :=
  (targets.zipIdx.filter fun (target, position) =>
    Accepts server protocol notification sent (targets.take position) target).map
      fun entry => entry.1.room

variable {server protocol notification}

theorem acceptingRooms_of_nothing (targets : List Target) :
    acceptingRooms server protocol notification [] targets = [] := by
  unfold acceptingRooms
  rw [List.map_eq_nil_iff, List.filter_eq_nil_iff]
  intro entry _ accepts
  exact absurd (of_decide_eq_true accepts).2.1 (Nat.not_lt_zero _)

theorem acceptingRooms_eq_iff {sent : List Request} {targets : List Target} :
    acceptingRooms server protocol notification sent targets = targets.map Target.room ↔
      ∀ position target, targets[position]? = some target →
        Accepts server protocol notification sent (targets.take position) target := by
  have all : targets.map Target.room = targets.zipIdx.map fun entry => entry.1.room := by
    rw [← List.zipIdx_map_fst 0 targets, List.map_map, List.zipIdx_map_fst]
    rfl
  constructor
  · intro same position target found
    -- A filter that leaves as much as there was leaves everything.
    have lengths := congrArg List.length same
    rw [acceptingRooms, all, List.length_map, List.length_map,
      List.length_filter_eq_length_iff] at lengths
    have member : (target, position) ∈ targets.zipIdx :=
      List.mk_mem_zipIdx_iff_getElem?.mpr found
    have kept := lengths (target, position) member
    exact of_decide_eq_true kept
  · intro accepts
    rw [acceptingRooms, all]
    congr 1
    rw [List.filter_eq_self]
    intro entry member
    have accepted := accepts entry.2 entry.1 (List.mem_zipIdx_iff_getElem?.mp member)
    exact decide_eq_true accepted

/-- When all requests have been sent, a room accepts if it takes the message. -/
theorem accepts_requestsFor_iff {targets : List Target} {position : Nat} {target : Target}
    (found : targets[position]? = some target) :
    Accepts server protocol notification (requestsFor protocol notification targets)
        (targets.take position) target ↔
      Takes server protocol notification [] (targets.take position) target := by
  have parts : targets.take position ++ target :: targets.drop (position + 1) = targets := by
    obtain ⟨inside, same⟩ := List.getElem?_eq_some_iff.mp found
    rw [← same, List.getElem_cons_drop, List.take_append_drop]
  unfold Accepts Takes
  cases made : Request.make protocol target notification with
  | error error => simp [Except.isOk, Except.toBool]
  | ok request =>
      have sent : requestsFor protocol notification targets =
          requestsFor protocol notification (targets.take position) ++ [request] ++
            requestsFor protocol notification (targets.drop (position + 1)) := by
        have one : requestsFor protocol notification [target] = [request] := by
          simp [requestsFor, made, Except.toOption]
        rw [← one, ← requestsFor_append, ← requestsFor_append, List.append_assoc,
          List.singleton_append, parts]
      have upTo : (requestsFor protocol notification targets).take
          ((requestsFor protocol notification (targets.take position)).length + 1) =
          requestsFor protocol notification (targets.take position) ++ [request] := by
        rw [sent]
        exact List.take_left' (by simp)
      have longer : (requestsFor protocol notification (targets.take position)).length <
          (requestsFor protocol notification targets).length := by
        rw [sent]
        simp
      rw [upTo]
      simp [Except.isOk, Except.toBool, longer]

theorem acceptingRooms_requestsFor_iff {targets : List Target} :
    acceptingRooms server protocol notification (requestsFor protocol notification targets)
        targets = targets.map Target.room ↔
      EveryRoomTakes server protocol notification [] targets := by
  rw [acceptingRooms_eq_iff]
  constructor
  · intro accepts position target found
    exact (accepts_requestsFor_iff found).mp (accepts position target found)
  · intro takes position target found
    exact (accepts_requestsFor_iff found).mpr (takes position target found)

/-- What is reported about some rooms, of which some accept: these, if they are all of them,
and otherwise a failure. -/
inductive ReportsAcceptance (rooms accepting : List String) :
    Except NoticeError (List String) → Prop
  | success (every : accepting = rooms) : ReportsAcceptance rooms accepting (.ok accepting)
  | failure (error : NoticeError) (notEvery : accepting ≠ rooms) :
      ReportsAcceptance rooms accepting (.error error)

theorem publish_reports_acceptance (proxy : ProxySettings) (targets : List Target) :
    let attempt := publish server proxy protocol notification [] targets
    ReportsAcceptance (targets.map Target.room)
      (acceptingRooms server protocol notification attempt.requests targets)
      attempt.result := by
  intro attempt
  by_cases ready : targets ≠ [] → proxy.prepare = .ok ()
  · have whole : attempt = _ := publish_eq server protocol notification ready []
    rw [whole, List.nil_append]
    by_cases takes : EveryRoomTakes server protocol notification [] targets
    · have every := acceptingRooms_requestsFor_iff.mpr takes
      have reported := combine_outcomesOf_of_takes server protocol notification takes
      rw [← every] at reported
      rw [reported]
      exact .success every
    · rw [combine_outcomesOf_of_refusal server protocol notification takes]
      exact .failure _ fun every => takes (acceptingRooms_requestsFor_iff.mp every)
  · obtain ⟨nonempty, unready⟩ := Classical.not_imp.mp ready
    cases prepared : proxy.prepare with
    | ok _ => exact absurd prepared unready
    | error error =>
        have whole : attempt = { requests := [], result := .error error } := by
          change publish server proxy protocol notification [] targets = _
          simp [publish, nonempty, prepared]
        rw [whole, acceptingRooms_of_nothing]
        exact .failure error fun same => nonempty (List.map_eq_nil_iff.mp same.symm)

end Acceptance
end BuildNotices
