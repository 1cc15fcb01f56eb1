import BuildNotices.Proofs.Delivery.FanOut
/-!
Failures after which it helps to try again.

An error may stand for the errors of several rooms, and these may do so again. What it comes down
to are its causes, which stand for no others. Trying again could help when every cause may pass;
an error without causes would be such a case, but no delivery fails with one.
-/

namespace BuildNotices

namespace NoticeError

/-! ### Causes -/

/-- An error stands for no others: it does not collect the errors of some rooms. -/
def IsSingle (error : NoticeError) : Prop :=
  ∀ attempted failures, error ≠ .publishFailed attempted failures

/-- The causes of an error: itself, if it stands for no others, and otherwise the causes of the
errors that it stands for, at any depth. -/
inductive HasCause : (error cause : NoticeError) → Prop where
  | itself {error : NoticeError} (single : error.IsSingle) : HasCause error error
  | ofRoom {attempted : Nat} {failures : List (String × NoticeError)} {room : String}
      {error cause : NoticeError} (member : (room, error) ∈ failures)
      (inner : HasCause error cause) : HasCause (.publishFailed attempted failures) cause

/-- A failure that may be gone the next time: there was no complete answer, or one whose status
tells of a timeout, of too many requests or of a fault of the server. -/
inductive MayPass : NoticeError → Prop where
  | transport (room : String) : MayPass (.transport room)
  | rejected (room : String) {code : Nat} (status : code = 408 ∨ code = 429 ∨ 500 ≤ code) :
      MayPass (.rejected room code)

theorem isPassingStatus_iff {code : Nat} :
    isPassingStatus code = true ↔ code = 408 ∨ code = 429 ∨ 500 ≤ code := by
  simp only [isPassingStatus, Bool.or_eq_true, decide_eq_true_eq]
  omega

theorem isRetryable_iff_of_single {error : NoticeError} (single : error.IsSingle) :
    error.isRetryable = true ↔ error.MayPass := by
  cases error with
  | transport room => exact iff_of_true (by rw [isRetryable]) (.transport room)
  | rejected room code =>
      rw [isRetryable, isPassingStatus_iff]
      constructor
      · exact .rejected room
      · rintro ⟨⟩
        assumption
  | publishFailed attempted failures => exact absurd rfl (single attempted failures)
  | _ => exact iff_of_false (by simp [isRetryable]) nofun

theorem hasCause_iff_of_single {error cause : NoticeError} (single : error.IsSingle) :
    error.HasCause cause ↔ cause = error := by
  constructor
  · intro caused
    cases caused with
    | itself _ => rfl
    | ofRoom _ _ => exact absurd rfl (single _ _)
  · rintro rfl
    exact .itself single

theorem hasCause_publishFailed_iff {attempted : Nat} {failures : List (String × NoticeError)}
    {cause : NoticeError} :
    (publishFailed attempted failures).HasCause cause ↔
      ∃ failure ∈ failures, failure.2.HasCause cause := by
  constructor
  · rintro (single | ⟨member, inner⟩)
    · exact absurd rfl (single _ _)
    · exact ⟨_, member, inner⟩
  · rintro ⟨failure, member, inner⟩
    exact .ofRoom member inner

mutual

/-- By induction on the tree of errors: a single error is its own cause, and the causes of a
collective one are those of its rooms. -/
theorem isRetryable_iff (error : NoticeError) :
    error.isRetryable = true ↔ ∀ cause, error.HasCause cause → cause.MayPass := by
  by_cases single : error.IsSingle
  · simp only [isRetryable_iff_of_single single, hasCause_iff_of_single single, forall_eq]
  · cases error with
    | publishFailed attempted failures =>
        rw [isRetryable, allRetryable_iff failures]
        simp only [hasCause_publishFailed_iff]
        constructor
        · rintro every cause ⟨failure, member, inner⟩
          exact every failure member cause inner
        · intro every failure member cause inner
          exact every cause ⟨failure, member, inner⟩
    | _ => exact absurd nofun single

theorem allRetryable_iff (failures : List (String × NoticeError)) :
    allRetryable failures = true ↔
      ∀ failure ∈ failures, ∀ cause, failure.2.HasCause cause → cause.MayPass := by
  match failures with
  | [] => simp [allRetryable]
  | (room, error) :: rest =>
      rw [allRetryable, Bool.and_eq_true, isRetryable_iff error, allRetryable_iff rest,
        List.forall_mem_cons]

end

end NoticeError

/-! ### Why one room fails -/

/-- A computation that fails does so with an error that stands for no others. -/
def FailsSingly {α : Type} (computation : Except NoticeError α) : Prop :=
  ∀ error, computation = .error error → error.IsSingle

namespace FailsSingly

variable {α β : Type}

theorem ok (value : α) : FailsSingly (.ok value) := nofun

theorem error {error : NoticeError} (single : error.IsSingle) :
    FailsSingly (.error error : Except NoticeError α) := by
  rintro _ ⟨⟩
  exact single

theorem bind {first : Except NoticeError α} {next : α → Except NoticeError β}
    (before : FailsSingly first) (behind : ∀ value, FailsSingly (next value)) :
    FailsSingly (first >>= next) := by
  cases first with
  | ok value => exact behind value
  | error reason => exact error (before reason rfl)

end FailsSingly

theorem serverUrl_failsSingly (server : String) : FailsSingly (serverUrl server) := by
  by_cases empty : serverName server = ""
  · rw [serverUrl, if_pos empty]
    exact .error nofun
  · rw [serverUrl, if_neg empty]
    split
    next fault _ => exact .error nofun
    next url _ =>
      split
      · exact .ok url
      · exact .error nofun

theorem endpoint_failsSingly (base : Url) (segments : List String) :
    FailsSingly (endpoint base segments) := by
  unfold endpoint
  split
  · exact .ok _
  · exact .error nofun

theorem V1.address_failsSingly (target : Target) : FailsSingly (address target) := by
  unfold address
  refine .bind (serverUrl_failsSingly target.server) fun base => ?_
  refine .bind (endpoint_failsSingly base _) fun url => ?_
  exact .ok (url.appendQuery _)

theorem V2.address_failsSingly (target : Target) : FailsSingly (address target) := by
  unfold address
  exact .bind (serverUrl_failsSingly target.server) fun base => endpoint_failsSingly base _

theorem Request.make_failsSingly (protocol : Protocol) (target : Target)
    (notification : Notification) : FailsSingly (make protocol target notification) := by
  cases protocol with
  | v1 =>
      refine FailsSingly.bind (V1.address_failsSingly target) fun url => ?_
      split
      · exact .ok _
      · exact .error nofun
  | v2 =>
      refine FailsSingly.bind (V2.address_failsSingly target) fun url => ?_
      split
      · exact .ok _
      · exact .error nofun

theorem Protocol.check_failsSingly (protocol : Protocol) (room : String) (answer : Answer) :
    FailsSingly (protocol.check room answer) := by
  cases answer with
  | failure => exact .error nofun
  | response status body =>
      cases protocol with
      | v1 =>
          simp only [check]
          split
          · exact .error nofun
          · split
            · exact .ok ()
            · exact .error nofun
      | v2 =>
          simp only [check]
          split
          · exact .ok ()
          · exact .error nofun

/-! ### Why a delivery fails -/

section Delivery

variable (server : Server) (protocol : Protocol) (notification : Notification)
  (requests : List Request)

theorem outcomeAfter_failsSingly (before : List Target) (target : Target) :
    FailsSingly (outcomeAfter server protocol notification requests before target) := by
  unfold outcomeAfter
  cases made : Request.make protocol target notification with
  | error error => exact .error (Request.make_failsSingly protocol target notification error made)
  | ok request => exact protocol.check_failsSingly _ _

/-- The room at a position of some targets does not take the message, for a reason. -/
def RoomFails (targets : List Target) (position : Nat) (reason : NoticeError) : Prop :=
  ∃ target, targets[position]? = some target ∧
    outcomeAfter server protocol notification requests (targets.take position) target =
      .error reason

variable {server protocol notification requests} {targets : List Target}

theorem mem_refusals_iff {room : String} {reason : NoticeError} :
    (room, reason) ∈ refusals server protocol notification requests targets ↔
      ∃ position target, targets[position]? = some target ∧ target.room = room ∧
        outcomeAfter server protocol notification requests (targets.take position) target =
          .error reason := by
  unfold refusals
  rw [List.mem_filterMap]
  constructor
  · rintro ⟨⟨target, position⟩, member, kept⟩
    refine ⟨position, target, List.mem_zipIdx_iff_getElem?.mp member, ?_⟩
    dsimp only at kept
    split at kept
    next => cases kept
    next error outcome =>
      cases kept
      exact ⟨rfl, outcome⟩
  · rintro ⟨position, target, found, rfl, outcome⟩
    refine ⟨(target, position), List.mk_mem_zipIdx_iff_getElem?.mpr found, ?_⟩
    simp only [outcome]

theorem exists_refusal_iff {reason : NoticeError} :
    (∃ room, (room, reason) ∈ refusals server protocol notification requests targets) ↔
      ∃ position, RoomFails server protocol notification requests targets position reason := by
  simp only [mem_refusals_iff]
  constructor
  · rintro ⟨_, position, target, found, _, outcome⟩
    exact ⟨position, target, found, outcome⟩
  · rintro ⟨position, target, found, outcome⟩
    exact ⟨target.room, position, target, found, rfl, outcome⟩

theorem isSingle_of_roomFails {position : Nat} {reason : NoticeError}
    (fails : RoomFails server protocol notification requests targets position reason) :
    reason.IsSingle := by
  obtain ⟨target, _, outcome⟩ := fails
  exact outcomeAfter_failsSingly server protocol notification requests _ target reason outcome

/-- The causes of the error of a delivery are what its rooms fail for. -/
theorem hasCause_refusals_iff {attempted : Nat} {cause : NoticeError} :
    (NoticeError.publishFailed attempted
        (refusals server protocol notification requests targets)).HasCause cause ↔
      ∃ position, RoomFails server protocol notification requests targets position cause := by
  rw [NoticeError.hasCause_publishFailed_iff, ← exists_refusal_iff]
  constructor
  · rintro ⟨⟨room, reason⟩, member, inner⟩
    obtain ⟨_, fails⟩ := exists_refusal_iff.mp ⟨room, member⟩
    have single := isSingle_of_roomFails fails
    rw [NoticeError.hasCause_iff_of_single single] at inner
    exact ⟨room, inner ▸ member⟩
  · rintro ⟨room, member⟩
    obtain ⟨_, fails⟩ := exists_refusal_iff.mp ⟨room, member⟩
    exact ⟨(room, cause), member, .itself (isSingle_of_roomFails fails)⟩

theorem eq_publishFailed_of_publish {proxy : ProxySettings} {error : NoticeError}
    (prepared : proxy.prepare = .ok ())
    (failed : (publish server proxy protocol notification requests targets).result =
      .error error) :
    refusals server protocol notification requests targets ≠ [] ∧
      error = .publishFailed targets.length
        (refusals server protocol notification requests targets) := by
  rw [publish_eq server protocol notification fun _ => prepared] at failed
  by_cases takes : EveryRoomTakes server protocol notification requests targets
  · rw [combine_outcomesOf_of_takes server protocol notification takes] at failed
    cases failed
  · rw [combine_outcomesOf_of_refusal server protocol notification takes] at failed
    exact ⟨mt (refusals_eq_nil_iff server protocol notification requests targets).mp takes,
      (Except.error.inj failed).symm⟩

variable (server protocol notification requests targets) in
/-- Trying again could help exactly when every cause of an error may pass, however deep it lies.
When a delivery fails although requests could be sent, at least one room has failed, and trying
again could help exactly when each room that failed did so for a reason that may pass. -/
theorem retryable_iff_every_cause_may_pass (proxy : ProxySettings) (error : NoticeError) :
    (error.isRetryable = true ↔ ∀ cause, error.HasCause cause → cause.MayPass) ∧
      (proxy.prepare = .ok () →
        (publish server proxy protocol notification requests targets).result = .error error →
        (∃ position reason,
            RoomFails server protocol notification requests targets position reason) ∧
          (error.isRetryable = true ↔ ∀ position reason,
            RoomFails server protocol notification requests targets position reason →
              reason.MayPass)) := by
  refine ⟨error.isRetryable_iff, fun prepared failed => ?_⟩
  obtain ⟨nonempty, rfl⟩ := eq_publishFailed_of_publish prepared failed
  constructor
  · obtain ⟨⟨room, reason⟩, member⟩ := List.exists_mem_of_ne_nil _ nonempty
    obtain ⟨position, fails⟩ := exists_refusal_iff.mp ⟨room, member⟩
    exact ⟨position, reason, fails⟩
  · simp only [NoticeError.isRetryable_iff, hasCause_refusals_iff, forall_exists_index]
    exact forall_comm

end Delivery

def reachableTargets : List Target :=
  mixedTargets.filter fun target => target.server ≠ ""

theorem breakdown_is_retryable :
    ProxySettings.direct.prepare = .ok () ∧
      ∃ error position reason,
        (publish breakingServer .direct .v2 (.ofColor "hi" .red) [] reachableTargets).result =
            .error error ∧
          RoomFails breakingServer .v2 (.ofColor "hi" .red) [] reachableTargets position reason ∧
          reason.MayPass ∧ error.isRetryable = true := by
  let attempt := publish breakingServer .direct .v2 (.ofColor "hi" .red) [] reachableTargets
  have fails : attempt.result.toOption.isNone = true := by decide +kernel
  refine ⟨rfl, ?_⟩
  cases failed : attempt.result with
  | ok rooms =>
      rw [failed] at fails
      cases fails
  | error error =>
      have retryable : error.isRetryable = true := by
        rw [(eq_publishFailed_of_publish rfl failed).2]
        decide +kernel
      obtain ⟨⟨position, reason, fails⟩, every⟩ :=
        (retryable_iff_every_cause_may_pass breakingServer .v2 (.ofColor "hi" .red) []
          reachableTargets .direct error).2 rfl failed
      exact ⟨error, position, reason, rfl, fails, every.mp retryable position reason fails,
        retryable⟩

end BuildNotices
