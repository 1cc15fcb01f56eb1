import BuildNotices.Delivery.Publish
import BuildNotices.Proofs.Text.Search
import Mathlib.Data.List.Basic
/-!
Delivery to several rooms, for every list of targets and every server.

The server may answer each request in the light of everything that it has received, so
the outcome of one target is stated relative to the targets before it. One step of the
loop sends at most one request, and by induction the loop leaves behind the requests of
all targets in order and the outcome of each one in its place.
-/

namespace BuildNotices

open Text

/-! ### Answers that confirm a delivery -/

/-- An answer by which a room takes the message: the older protocol wants a confirmation
in the body, the newer one only a status. -/
def Protocol.Confirms : Protocol → Answer → Prop
  | _, .failure => False
  | .v1, .response status body => status = 200 ∧ "sent".toList <:+: body.toList
  | .v2, .response status _ => status = 204

theorem Protocol.check_eq_ok_iff (protocol : Protocol) (room : String) (answer : Answer) :
    protocol.check room answer = .ok () ↔ protocol.Confirms answer := by
  cases answer with
  | failure =>
      simp [Protocol.check, Protocol.Confirms]
  | response status body =>
      cases protocol with
      | v1 =>
          simp only [Protocol.check, Protocol.Confirms, ← contains_eq_true_iff]
          by_cases accepted : status = 200
          · by_cases confirmed : contains body "sent" = true
            · simp [accepted, confirmed]
            · simp [accepted, confirmed]
          · simp [accepted]
      | v2 =>
          by_cases accepted : status = 204
          · simp [Protocol.check, Protocol.Confirms, accepted]
          · simp [Protocol.check, Protocol.Confirms, accepted]

/-! ### One target -/

def requestsFor (protocol : Protocol) (notification : Notification) (targets : List Target) :
    List Request :=
  targets.filterMap fun target => (Request.make protocol target notification).toOption

section FanOut

variable (server : Server) (protocol : Protocol) (notification : Notification)

/-- A room takes the message: its request can be made, and the answer to it confirms,
given all requests of the targets before it. -/
def Takes (requests : List Request) (before : List Target) (target : Target) : Prop :=
  ∃ request, Request.make protocol target notification = .ok request ∧
    protocol.Confirms
      (server (requests ++ requestsFor protocol notification before ++ [request]))

/-- What comes of one target after others: the reason why its request cannot be made, or
the verdict on the answer to its request. -/
def outcomeAfter (requests : List Request) (before : List Target) (target : Target) :
    Except NoticeError Unit :=
  match Request.make protocol target notification with
  | .error error => .error error
  | .ok request =>
      protocol.check target.room
        (server (requests ++ requestsFor protocol notification before ++ [request]))

theorem requestsFor_append (first second : List Target) :
    requestsFor protocol notification (first ++ second) =
      requestsFor protocol notification first ++ requestsFor protocol notification second :=
  List.filterMap_append

theorem outcomeAfter_eq_ok_iff (requests : List Request) (before : List Target)
    (target : Target) :
    outcomeAfter server protocol notification requests before target = .ok () ↔
      Takes server protocol notification requests before target := by
  unfold outcomeAfter Takes
  cases made : Request.make protocol target notification with
  | error error => simp
  | ok request => simp [Protocol.check_eq_ok_iff]

theorem outcomeAfter_append (requests : List Request) (first before : List Target)
    (target : Target) :
    outcomeAfter server protocol notification requests (first ++ before) target =
      outcomeAfter server protocol notification
        (requests ++ requestsFor protocol notification first) before target := by
  simp only [outcomeAfter, requestsFor_append, List.append_assoc]

theorem deliverTo_eq (requests : List Request) (target : Target) :
    deliverTo server protocol notification requests target =
      { requests := requests ++ requestsFor protocol notification [target]
        result := outcomeAfter server protocol notification requests [] target } := by
  cases made : Request.make protocol target notification with
  | error error =>
      simp [deliverTo, outcomeAfter, requestsFor, made, Except.toOption]
  | ok request =>
      simp [deliverTo, outcomeAfter, requestsFor, made, Except.toOption]

/-! ### All targets -/

def outcomesOf (requests : List Request) (targets : List Target) :
    List (String × Except NoticeError Unit) :=
  targets.mapIdx fun position target =>
    (target.room,
      outcomeAfter server protocol notification requests (targets.take position) target)

theorem outcomesOf_cons (requests : List Request) (target : Target) (rest : List Target) :
    outcomesOf server protocol notification requests (target :: rest) =
      (target.room, outcomeAfter server protocol notification requests [] target) ::
        outcomesOf server protocol notification
          (requests ++ requestsFor protocol notification [target]) rest := by
  unfold outcomesOf
  rw [List.mapIdx_cons]
  congr 1
  -- In the rest every position is one less, with the first target before it.
  refine List.mapIdx_eq_mapIdx_iff.mpr ?_
  intro position inside
  rw [List.take_succ_cons, ← List.singleton_append, outcomeAfter_append]

/-- The whole loop: one request for each target that has one, in order, and the outcome
of each target in its place. -/
theorem deliverAll_eq (requests : List Request) (targets : List Target) :
    deliverAll server protocol notification requests targets =
      (requests ++ requestsFor protocol notification targets,
        outcomesOf server protocol notification requests targets) := by
  induction targets generalizing requests with
  | nil =>
      simp [deliverAll, requestsFor, outcomesOf]
  | cons target rest ih =>
      -- The rest starts from the requests that the first target leaves behind.
      simp only [deliverAll, deliverTo_eq, ih, outcomesOf_cons]
      rw [List.append_assoc, ← requestsFor_append, List.singleton_append]

/-! ### The verdict -/

/-- The rooms that did not take the message, in order, each with its own error. -/
def refusals (requests : List Request) (targets : List Target) :
    List (String × NoticeError) :=
  targets.zipIdx.filterMap fun (target, position) =>
    match outcomeAfter server protocol notification requests (targets.take position) target with
    | .ok () => none
    | .error error => some (target.room, error)

def EveryRoomTakes (requests : List Request) (targets : List Target) : Prop :=
  ∀ position target, targets[position]? = some target →
    Takes server protocol notification requests (targets.take position) target

theorem failuresOf_outcomesOf (requests : List Request) (targets : List Target) :
    failuresOf (outcomesOf server protocol notification requests targets) =
      refusals server protocol notification requests targets := by
  simp only [failuresOf, outcomesOf, refusals, List.mapIdx_eq_zipIdx_map, List.filterMap_map]
  rfl

theorem map_fst_outcomesOf (requests : List Request) (targets : List Target) :
    (outcomesOf server protocol notification requests targets).map Prod.fst =
      targets.map Target.room := by
  apply List.ext_getElem?
  intro position
  simp only [outcomesOf, List.getElem?_map, List.getElem?_mapIdx, Option.map_map]
  rfl

theorem length_outcomesOf (requests : List Request) (targets : List Target) :
    (outcomesOf server protocol notification requests targets).length = targets.length :=
  List.length_mapIdx

theorem refusals_eq_nil_iff (requests : List Request) (targets : List Target) :
    refusals server protocol notification requests targets = [] ↔
      EveryRoomTakes server protocol notification requests targets := by
  unfold refusals EveryRoomTakes
  rw [List.filterMap_eq_nil_iff]
  constructor
  · intro silent position target found
    have member : (target, position) ∈ targets.zipIdx :=
      List.mk_mem_zipIdx_iff_getElem?.mpr found
    have nothing := silent (target, position) member
    rw [← outcomeAfter_eq_ok_iff]
    cases outcome : outcomeAfter server protocol notification requests
        (targets.take position) target with
    | ok _ => rfl
    | error error =>
        simp only [outcome] at nothing
        cases nothing
  · intro takes entry member
    have found := List.mem_zipIdx_iff_getElem?.mp member
    have accepted := takes entry.2 entry.1 found
    rw [← outcomeAfter_eq_ok_iff] at accepted
    simp only [accepted]

theorem combine_outcomesOf_of_takes {requests : List Request} {targets : List Target}
    (takes : EveryRoomTakes server protocol notification requests targets) :
    combine (outcomesOf server protocol notification requests targets) =
      .ok (targets.map Target.room) := by
  have nothing := (refusals_eq_nil_iff server protocol notification requests targets).mpr takes
  unfold combine
  rw [failuresOf_outcomesOf, nothing, map_fst_outcomesOf]

theorem combine_outcomesOf_of_refusal {requests : List Request} {targets : List Target}
    (refusal : ¬ EveryRoomTakes server protocol notification requests targets) :
    combine (outcomesOf server protocol notification requests targets) =
      .error (.publishFailed targets.length
        (refusals server protocol notification requests targets)) := by
  unfold combine
  rw [failuresOf_outcomesOf, length_outcomesOf]
  cases failures : refusals server protocol notification requests targets with
  | nil =>
      exact absurd ((refusals_eq_nil_iff server protocol notification requests targets).mp
        failures) refusal
  | cons first others => rfl

theorem publish_eq {proxy : ProxySettings} {targets : List Target}
    (ready : targets ≠ [] → proxy.prepare = .ok ()) (requests : List Request) :
    publish server proxy protocol notification requests targets =
      { requests := requests ++ requestsFor protocol notification targets
        result := combine (outcomesOf server protocol notification requests targets) } := by
  cases targets with
  | nil =>
      simp [publish, requestsFor, outcomesOf, combine, failuresOf]
  | cons target rest =>
      have prepared : proxy.prepare = .ok () := ready (List.cons_ne_nil target rest)
      simp [publish, prepared, deliverAll_eq]

theorem publish_requests (proxy : ProxySettings) (requests : List Request)
    (targets : List Target) :
    ∃ issued,
      (publish server proxy protocol notification requests targets).requests =
          requests ++ issued ∧
        ∀ request ∈ issued, ∃ target ∈ targets,
          Request.make protocol target notification = .ok request := by
  by_cases ready : targets ≠ [] → proxy.prepare = .ok ()
  · refine ⟨requestsFor protocol notification targets, ?_, ?_⟩
    · rw [publish_eq server protocol notification ready]
    · intro request member
      obtain ⟨target, inside, found⟩ := List.mem_filterMap.mp member
      cases made : Request.make protocol target notification with
      | error error => simp [made, Except.toOption] at found
      | ok other =>
          simp only [made, Except.toOption, Option.some.injEq] at found
          exact ⟨target, inside, found ▸ made⟩
  · rw [Classical.not_imp] at ready
    obtain ⟨nonempty, refused⟩ := ready
    cases prepared : proxy.prepare with
    | ok _ => exact absurd prepared refused
    | error error => exact ⟨[], by simp [publish, nonempty, prepared], by simp⟩

/-- Every target is attempted once and in order, whatever happened to those before it.
The rooms come back exactly when every one of them took the message; otherwise the error
holds the number of targets and every refusal. -/
theorem publish_attempts_every_target (proxy : ProxySettings) (requests : List Request)
    (targets : List Target) (ready : targets ≠ [] → proxy.prepare = .ok ()) :
    let attempt := publish server proxy protocol notification requests targets
    attempt.requests = requests ++ requestsFor protocol notification targets ∧
      (attempt.result = .ok (targets.map Target.room) ↔
        EveryRoomTakes server protocol notification requests targets) ∧
      (¬ EveryRoomTakes server protocol notification requests targets →
        attempt.result = .error (.publishFailed targets.length
          (refusals server protocol notification requests targets))) ∧
      (targets = [] → attempt = { requests, result := .ok [] }) := by
  intro attempt
  have whole : attempt = _ := publish_eq server protocol notification ready requests
  rw [whole]
  refine ⟨rfl, ⟨?_, combine_outcomesOf_of_takes server protocol notification⟩,
    combine_outcomesOf_of_refusal server protocol notification, ?_⟩
  · intro succeeded
    by_contra refusal
    have failed := combine_outcomesOf_of_refusal server protocol notification refusal
    rw [failed] at succeeded
    cases succeeded
  · intro empty
    subst empty
    simp [requestsFor, outcomesOf, combine, failuresOf]

end FanOut

/-- Three rooms: the first one takes the message, the second one has no server, and the
third one is met by a server that has broken down. -/
def mixedTargets : List Target :=
  [ { room := "ops", server := "http://chat.local", token := "secret", sender := "CI" },
    { room := "lost", server := "", token := "secret", sender := "CI" },
    { room := "dev", server := "http://chat.local", token := "secret", sender := "CI" } ]

def breakingServer : Server := fun requests =>
  if requests.length = 1 then .response 204 "" else .response 500 "boom"

theorem publish_attempts_mixed_targets :
    ProxySettings.direct.prepare = .ok () ∧
      ∃ failures,
        (publish breakingServer .direct .v2 (.ofColor "hi" .red) [] mixedTargets).result =
            .error (.publishFailed 3 failures) ∧
          failures.map (fun failure => (failure.1, failure.2.message)) =
            [ ("lost", "Invalid endpoint for server '': server is empty"),
              ("dev", "Room 'dev' rejected the notification with HTTP 500") ] := by
  have spec := publish_attempts_every_target breakingServer .v2 (.ofColor "hi" .red) .direct []
    mixedTargets (fun _ => rfl)
  have written : (refusals breakingServer .v2 (.ofColor "hi" .red) [] mixedTargets).map
      (fun failure => (failure.1, failure.2.message)) =
      [ ("lost", "Invalid endpoint for server '': server is empty"),
        ("dev", "Room 'dev' rejected the notification with HTTP 500") ] := by
    decide +kernel
  refine ⟨rfl, _, spec.2.2.1 ?_, written⟩
  intro takes
  have nothing := (refusals_eq_nil_iff _ _ _ _ _).mpr takes
  rw [nothing] at written
  cases written

end BuildNotices
