import BuildNotices.Program
import BuildNotices.Proofs.Delivery.Acceptance
import BuildNotices.Proofs.Notifier.Policy
/-!
What the program prints about a message that it has sent.

The line is made of what the delivery reports, after the policy on failures. A delivery that
fails comes out of a lenient policy as nothing at all, also when some rooms have accepted the
message by then. This is the one case in which the line is not true.
-/

namespace BuildNotices

open Text

namespace Notifier

def targetsOf (notifier : Notifier) (destination : Destination) : List Target :=
  roomTargets destination.rooms destination.server
    ((resolveToken notifier.credentials destination.credentialId destination.token
      destination.server).toOption.getD "")
    destination.sender

/-- The rooms that accept a message by hand, by the requests that were sent for it. -/
def roomsAccepting (notifier : Notifier) (server : Server) (moment : Moment)
    (message : AdHocMessage) (run : Option Run) (sent : List Request) : List String :=
  let destination := notifier.settings.destinationUnder message.overrides
  acceptingRooms server destination.protocol (notifier.compose moment message run) sent
    (notifier.targetsOf destination)

section Delivery

variable (notifier : Notifier) (server : Server)

theorem map_room_targetsOf (destination : Destination) :
    (notifier.targetsOf destination).map Target.room = roomIds destination.rooms := by
  rw [targetsOf, roomTargets, List.map_map]
  exact List.map_id _

theorem deliver_reports_acceptance (destination : Destination) (notification : Notification) :
    let attempt := notifier.deliver server [] destination notification
    ReportsAcceptance (roomIds destination.rooms)
      (acceptingRooms server destination.protocol notification attempt.requests
        (notifier.targetsOf destination))
      attempt.result := by
  intro attempt
  by_cases room : destination.HasRoom
  · cases resolved : resolveToken notifier.credentials destination.credentialId
        destination.token destination.server with
    | error error =>
        have whole : attempt = _ :=
          deliver_of_unresolved notifier server [] destination notification room resolved
        rw [whole, acceptingRooms_of_nothing]
        exact .failure error fun same => (roomIds_eq_nil_iff destination).mp same.symm room
    | ok token =>
        have targets : notifier.targetsOf destination =
            roomTargets destination.rooms destination.server token destination.sender := by
          rw [targetsOf, resolved]
          rfl
        have whole : attempt = _ :=
          deliver_of_resolved notifier server [] destination notification room resolved
        rw [whole, ← targets, ← map_room_targetsOf]
        exact publish_reports_acceptance notifier.settings.proxy _
  · have whole : attempt = _ :=
      deliver_of_roomless notifier server [] destination notification room
    have roomless := (roomIds_eq_nil_iff destination).mpr room
    rw [whole, acceptingRooms_of_nothing, roomless]
    exact .success rfl

variable (moment : Moment) (message : AdHocMessage) (run : Option Run)

/-- If nothing is reported, the policy is lenient, and either the message was blank or some
room has not accepted it. -/
theorem sendMessage_of_ok {attempt : Attempt (Option (List String))}
    (issued : notifier.sendMessage server moment [] message run = attempt)
    {delivered : Option (List String)} (reported : attempt.result = .ok delivered) :
    let accepting := notifier.roomsAccepting server moment message run attempt.requests
    let listed := roomIds (notifier.settings.destinationUnder message.overrides).rooms
    (delivered = some accepting ∧ accepting = listed) ∨
      (delivered = none ∧
        message.overrides.failOnError.getD notifier.settings.failOnError = false ∧
        (accepting = [] ∨ accepting ≠ listed)) := by
  intro accepting listed
  by_cases blank : allBlank message.text = true
  · rw [sendMessage, if_pos blank] at issued
    subst issued
    obtain ⟨nothing, lenient⟩ := underPolicy_error_eq_ok reported
    exact Or.inr ⟨nothing, lenient, Or.inl (acceptingRooms_of_nothing _)⟩
  · rw [sendMessage, if_neg blank] at issued
    subst issued
    have delivery : ReportsAcceptance listed accepting (notifier.deliver server []
        (notifier.settings.destinationUnder message.overrides)
        (notifier.compose moment message run)).result := by
      simp only [accepting, Attempt.requests_mapResult]
      exact notifier.deliver_reports_acceptance server _ _
    rw [Attempt.result_mapResult] at reported
    cases outcome : (notifier.deliver server []
        (notifier.settings.destinationUnder message.overrides)
        (notifier.compose moment message run)).result with
    | ok rooms =>
        rw [outcome] at delivery reported
        cases delivery with
        | success every =>
            cases reported
            exact Or.inl ⟨rfl, every⟩
    | error error =>
        rw [outcome] at delivery reported
        cases delivery with
        | failure _ notEvery =>
            obtain ⟨nothing, lenient⟩ := underPolicy_error_eq_ok reported
            exact Or.inr ⟨nothing, lenient, Or.inr notEvery⟩

end Delivery

end Notifier

theorem Outcome.exitCode_eq_zero_iff {outcome : Outcome} :
    outcome.exitCode = 0 ↔ outcome.failure = none := by
  unfold exitCode
  cases outcome.failure with
  | none => simp
  | some failure => cases failure <;> simp

namespace Program

/-- What a line of output says about a message is so, given the rooms that accept it. -/
structure IsTruthful (output : String) (accepting : List String) : Prop where
  nothing : output = "Nothing sent\n" ∨ output = "No rooms configured, nothing sent\n" →
    accepting = []
  rooms : "Message sent to ".toList <+: output.toList →
    output = "Message sent to " ++ ", ".intercalate accepting ++ "\n"

theorem isTruthful_nothing_iff (accepting : List String) :
    IsTruthful (deliveryReport none) accepting ↔ accepting = [] := by
  constructor
  · intro truthful
    exact truthful.nothing (Or.inl rfl)
  · intro nobody
    refine ⟨fun _ => nobody, fun names => ?_⟩
    exact absurd names (by decide)

theorem names_rooms_of_deliveryReport {rooms : List String} (some_room : rooms ≠ []) :
    "Message sent to ".toList <+: (deliveryReport (some rooms)).toList := by
  cases rooms with
  | nil => exact absurd rfl some_room
  | cons first others =>
      simp only [deliveryReport, String.toList_append, List.append_assoc]
      exact List.prefix_append _ _

theorem isTruthful_rooms (accepting : List String) :
    IsTruthful (deliveryReport (some accepting)) accepting := by
  cases accepting with
  | nil => exact ⟨fun _ => rfl, fun names => absurd names (by decide)⟩
  | cons first others =>
      refine ⟨fun denies => ?_, fun _ => rfl⟩
      -- Neither of the other two lines begins as this one does.
      have names := names_rooms_of_deliveryReport (List.cons_ne_nil first others)
      rcases denies with nothing | roomless
      · rw [nothing] at names
        exact absurd names (by decide)
      · rw [roomless] at names
        exact absurd names (by decide)

section Send

variable {surroundings : Surroundings} {config : Config} {message : AdHocMessage}
  {runFile : Option String}

theorem exists_of_send_succeeds
    (succeeded : (send surroundings config message runFile).exitCode = 0) :
    ∃ history notifier delivered,
      runFile.mapM (loadRun surroundings.files) = .ok history ∧
        setUp config = .ok notifier ∧
        let attempt := notifier.sendMessage surroundings.server surroundings.moment [] message
          (history.map History.latest)
        attempt.result = .ok delivered ∧
          send surroundings config message runFile =
            { requests := attempt.requests, output := deliveryReport delivered } := by
  rw [Outcome.exitCode_eq_zero_iff] at succeeded
  unfold send at succeeded ⊢
  cases loaded : runFile.mapM (loadRun surroundings.files) with
  | error text =>
      rw [loaded] at succeeded
      cases succeeded
  | ok history =>
      cases ready : setUp config with
      | error text =>
          rw [loaded, ready] at succeeded
          cases succeeded
      | ok notifier =>
          rw [loaded, ready] at succeeded
          simp only [orReport] at succeeded ⊢
          cases reported : (notifier.sendMessage surroundings.server surroundings.moment []
              message (history.map History.latest)).result with
          | error error =>
              rw [reported] at succeeded
              cases succeeded
          | ok delivered => exact ⟨history, notifier, delivered, rfl, rfl, reported, rfl⟩

end Send

/-- The line about a message is true exactly when all rooms accept it or none does. Where only
some of them do, a run that succeeds has a lenient policy, and it denies what was delivered. -/
theorem send_is_truthful_unless_some_rooms_accept (surroundings : Surroundings)
    (config : Config) (message : AdHocMessage) (runFile : Option String)
    (succeeded : (send surroundings config message runFile).exitCode = 0) :
    ∃ history notifier,
      runFile.mapM (loadRun surroundings.files) = .ok history ∧
        setUp config = .ok notifier ∧
        let outcome := send surroundings config message runFile
        let accepting := notifier.roomsAccepting surroundings.server surroundings.moment message
          (history.map History.latest) outcome.requests
        let listed := roomIds (notifier.settings.destinationUnder message.overrides).rooms
        (IsTruthful outcome.output accepting ↔ accepting = [] ∨ accepting = listed) ∧
          (accepting ≠ [] → accepting ≠ listed →
            outcome.output = "Nothing sent\n" ∧
              message.overrides.failOnError.getD notifier.settings.failOnError = false) ∧
          ("Message sent to ".toList <+: outcome.output.toList ↔
            accepting = listed ∧ listed ≠ []) := by
  obtain ⟨history, notifier, delivered, loaded, ready, reported, whole⟩ :=
    exists_of_send_succeeds succeeded
  refine ⟨history, notifier, loaded, ready, ?_⟩
  intro outcome accepting listed
  have sent : outcome.output = deliveryReport delivered := by
    change (send surroundings config message runFile).output = _
    rw [whole]
  have log : accepting = notifier.roomsAccepting surroundings.server surroundings.moment message
      (history.map History.latest) (notifier.sendMessage surroundings.server
        surroundings.moment [] message (history.map History.latest)).requests := by
    change notifier.roomsAccepting _ _ _ _ (send surroundings config message runFile).requests = _
    rw [whole]
  have decided := notifier.sendMessage_of_ok surroundings.server surroundings.moment message
    (history.map History.latest) rfl reported
  rw [← log] at decided
  rw [sent]
  rcases decided with ⟨rfl, every⟩ | ⟨rfl, lenient, notEvery⟩
  · refine ⟨?_, fun _ partly => absurd every partly, ?_, ?_⟩
    · exact iff_of_true (isTruthful_rooms accepting) (Or.inr every)
    · intro names
      refine ⟨every, fun roomless => ?_⟩
      rw [every.trans roomless] at names
      exact absurd names (by decide)
    · rintro ⟨_, some_room⟩
      exact names_rooms_of_deliveryReport (every ▸ some_room)
  · have nobody_of_every (every : accepting = listed) : accepting = [] :=
      notEvery.resolve_right (not_not_intro every)
    refine ⟨?_, fun _ _ => ⟨rfl, lenient⟩, ?_, ?_⟩
    · rw [isTruthful_nothing_iff]
      constructor
      · exact Or.inl
      · rintro (nobody | every)
        · exact nobody
        · exact nobody_of_every every
    · intro names
      exact absurd names (by decide)
    · rintro ⟨every, some_room⟩
      exact absurd (every ▸ nobody_of_every every) some_room

def surroundedBy (server : Server) : Surroundings where
  files := { look := fun _ => .absent }
  directory := "/"
  home := none
  token := none
  moment := default
  server

def twoRoomConfig : Config where
  chat := { server := "http://chat.local", rooms := "ops, dev", token := some "secret" }

def acceptingServer : Server := fun _ => .response 204 ""

theorem send_is_truthful_of_two_rooms :
    let outcome := send (surroundedBy acceptingServer) twoRoomConfig { text := "hi" } none
    outcome.exitCode = 0 ∧
      ∃ notifier, setUp twoRoomConfig = .ok notifier ∧
        IsTruthful outcome.output
          (notifier.roomsAccepting acceptingServer default { text := "hi" } none
            outcome.requests) := by
  have succeeded : (send (surroundedBy acceptingServer) twoRoomConfig { text := "hi" }
      none).exitCode = 0 := by
    decide +kernel
  obtain ⟨history, notifier, loaded, ready, truthful, _, names⟩ :=
    send_is_truthful_unless_some_rooms_accept _ _ _ _ succeeded
  cases loaded
  exact ⟨succeeded, notifier, ready, truthful.mpr (Or.inr (names.mp (by decide +kernel)).1)⟩

/-- The second room refuses, and the first one has the message all the same. -/
theorem send_denies_a_delivery :
    (send (surroundedBy breakingServer) twoRoomConfig { text := "hi" } none).exitCode = 0 ∧
      (send (surroundedBy breakingServer) twoRoomConfig { text := "hi" } none).output =
        "Nothing sent\n" ∧
      ∃ notifier, setUp twoRoomConfig = .ok notifier ∧
        notifier.roomsAccepting breakingServer default { text := "hi" } none
          (send (surroundedBy breakingServer) twoRoomConfig { text := "hi" } none).requests =
            ["ops"] := by
  refine ⟨by decide +kernel, by decide +kernel, _, rfl, by decide +kernel⟩

end Program
end BuildNotices
