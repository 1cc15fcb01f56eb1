import BuildNotices.Proofs.Delivery.FanOut
import BuildNotices.Proofs.Delivery.Request
import BuildNotices.Proofs.Delivery.Room
import BuildNotices.Proofs.Notifier.Call
import BuildNotices.Proofs.Text.Blank
/-!
No request without a token.

The targets of a call are first built without a token, to see whether there is any room at
all. Only then is a token resolved and written into them. So whatever is sent shows the
resolved token, and a destination without a room needs none.
-/

namespace BuildNotices

open Text

/-! ### Rooms and tokens of a destination -/

/-- One of the fields of the room list is not blank. -/
def Destination.HasRoom (destination : Destination) : Prop :=
  ∃ field ∈ fields ',' destination.rooms.toList, field.all isBlank = false

/-- Neither the store nor the destination itself has a token that is not blank. -/
structure Destination.LacksToken (store : CredentialStore) (destination : Destination) :
    Prop where
  stored : ∀ id, destination.credentialId = some id → allBlank id = true ∨
    ∀ token, store.lookup (trimmed id) destination.server = some token → allBlank token = true
  explicit : ∀ token, destination.token = some token → allBlank token = true

theorem roomIds_eq_nil_iff (destination : Destination) :
    roomIds destination.rooms = [] ↔ ¬ destination.HasRoom := by
  rw [roomIds_eq, Destination.HasRoom, List.filter_eq_nil_iff]
  constructor
  · intro blank
    rintro ⟨field, member, kept⟩
    have dropped : String.ofList (trim field) = "" := by
      simpa using blank _ (List.mem_map_of_mem member)
    rw [ofList_trim_eq_empty_iff, kept] at dropped
    cases dropped
  · intro roomless room member
    obtain ⟨field, inside, rfl⟩ := List.mem_map.mp member
    have blank : field.all isBlank = true := by
      by_contra kept
      exact roomless ⟨field, inside, by simpa using kept⟩
    simp [ofList_trim_eq_empty_iff.mpr blank]

theorem roomTargets_eq_nil_iff (destination : Destination) (token : String) :
    roomTargets destination.rooms destination.server token destination.sender = [] ↔
      ¬ destination.HasRoom := by
  rw [roomTargets, List.map_eq_nil_iff, roomIds_eq_nil_iff]

theorem isEmpty_roomTargets {destination : Destination} (room : destination.HasRoom)
    (token : String) :
    (roomTargets destination.rooms destination.server token destination.sender).isEmpty =
      false := by
  rw [List.isEmpty_eq_false_iff, ne_eq, roomTargets_eq_nil_iff]
  exact not_not_intro room

/-! ### Resolving a token -/

theorem nonBlank?_eq_none_iff {text : String} :
    nonBlank? text = none ↔ allBlank text = true := by
  by_cases blank : allBlank text = true
  · simp [nonBlank?, blank]
  · simp [nonBlank?, blank]

theorem allBlank_of_nonBlank? {text token : String} (found : nonBlank? text = some token) :
    allBlank token = false := by
  by_cases blank : allBlank text = true
  · simp [nonBlank?, blank] at found
  · simp only [nonBlank?, if_neg blank, Option.some.injEq] at found
    subst found
    rw [allBlank_trimmed]
    simpa using blank

theorem storedToken?_eq_none_iff {store : CredentialStore} {credentialId : Option String}
    {server : String} :
    storedToken? store credentialId server = none ↔
      ∀ id, credentialId = some id → allBlank id = true ∨
        ∀ token, store.lookup (trimmed id) server = some token → allBlank token = true := by
  cases credentialId with
  | none => simp [storedToken?]
  | some id =>
      by_cases blank : allBlank id = true
      · simp [storedToken?, nonBlank?, blank]
      · simp [storedToken?, nonBlank?, blank, Option.filter_eq_none_iff]

theorem allBlank_of_storedToken? {store : CredentialStore} {credentialId : Option String}
    {server token : String} (found : storedToken? store credentialId server = some token) :
    allBlank token = false := by
  obtain ⟨id, _, kept⟩ := Option.bind_eq_some_iff.mp found
  have usable := (Option.filter_eq_some_iff.mp kept).2
  simpa using usable

theorem allBlank_of_resolveToken {store : CredentialStore}
    {credentialId explicit : Option String} {server token : String}
    (resolved : resolveToken store credentialId explicit server = .ok token) :
    allBlank token = false := by
  unfold resolveToken at resolved
  cases stored : storedToken? store credentialId server with
  | some found =>
      simp only [stored, Option.orElse_eq_orElse, Option.orElse_some, Except.ok.injEq] at resolved
      subst resolved
      exact allBlank_of_storedToken? stored
  | none =>
      cases given : explicit.bind nonBlank? with
      | some found =>
          simp only [stored, given, Option.orElse_eq_orElse, Option.orElse_none,
            Except.ok.injEq] at resolved
          subst resolved
          obtain ⟨text, _, kept⟩ := Option.bind_eq_some_iff.mp given
          exact allBlank_of_nonBlank? kept
      | none =>
          simp [stored, given] at resolved

theorem resolveToken_of_lacksToken {store : CredentialStore} {destination : Destination}
    (lacking : destination.LacksToken store) :
    resolveToken store destination.credentialId destination.token destination.server =
      .error (.credentialMissing destination.server) := by
  have stored : storedToken? store destination.credentialId destination.server = none :=
    storedToken?_eq_none_iff.mpr lacking.stored
  have given : destination.token.bind nonBlank? = none := by
    rw [Option.bind_eq_none_iff]
    intro token present
    exact nonBlank?_eq_none_iff.mpr (lacking.explicit token present)
  simp [resolveToken, stored, given]

/-! ### Delivering -/

section Deliver

variable (notifier : Notifier) (server : Server) (requests : List Request)
  (destination : Destination) (notification : Notification)

theorem deliver_of_roomless (roomless : ¬ destination.HasRoom) :
    notifier.deliver server requests destination notification =
      { requests, result := .ok [] } := by
  have targets := (roomTargets_eq_nil_iff destination "").mpr roomless
  simp [Notifier.deliver, targets, publish]

/-- Only a destination with a room is asked for a token. -/
theorem deliver_of_unresolved {error : NoticeError} (room : destination.HasRoom)
    (failed : resolveToken notifier.credentials destination.credentialId destination.token
      destination.server = .error error) :
    notifier.deliver server requests destination notification =
      { requests, result := .error error } := by
  have targets : (roomTargets destination.rooms destination.server ""
      destination.sender).isEmpty = false := isEmpty_roomTargets room ""
  simp only [Notifier.deliver, targets, Bool.false_eq_true, if_false, failed]

theorem deliver_of_resolved {token : String} (room : destination.HasRoom)
    (resolved : resolveToken notifier.credentials destination.credentialId destination.token
      destination.server = .ok token) :
    notifier.deliver server requests destination notification =
      publish server notifier.settings.proxy destination.protocol notification requests
        (roomTargets destination.rooms destination.server token destination.sender) := by
  have targets : (roomTargets destination.rooms destination.server ""
      destination.sender).isEmpty = false := isEmpty_roomTargets room ""
  simp only [Notifier.deliver, targets, Bool.false_eq_true, if_false, resolved]

/-- A destination without a room gets no requests, with a token or without. -/
theorem deliver_requests_of_ready {token : String}
    (resolved : resolveToken notifier.credentials destination.credentialId destination.token
      destination.server = .ok token)
    (ready : notifier.settings.proxy.prepare = .ok ()) :
    (notifier.deliver server requests destination notification).requests =
      requests ++ requestsFor destination.protocol notification
        (roomTargets destination.rooms destination.server token destination.sender) := by
  by_cases room : destination.HasRoom
  · rw [deliver_of_resolved notifier server requests destination notification room resolved,
      publish_eq server _ _ fun _ => ready]
  · have targets := (roomTargets_eq_nil_iff destination token).mpr room
    rw [deliver_of_roomless notifier server requests destination notification room, targets]
    exact (List.append_nil requests).symm

theorem deliver_requests :
    ∃ issued,
      (notifier.deliver server requests destination notification).requests =
          requests ++ issued ∧
        ∀ request ∈ issued, ∃ token,
          resolveToken notifier.credentials destination.credentialId destination.token
              destination.server = .ok token ∧
            ∃ target ∈ roomTargets destination.rooms destination.server token
                destination.sender,
              Request.make destination.protocol target notification = .ok request := by
  by_cases room : destination.HasRoom
  · cases resolved : resolveToken notifier.credentials destination.credentialId
        destination.token destination.server with
    | error error =>
        rw [deliver_of_unresolved notifier server requests destination notification room
          resolved]
        exact ⟨[], (List.append_nil requests).symm, by simp⟩
    | ok token =>
        rw [deliver_of_resolved notifier server requests destination notification room
          resolved]
        obtain ⟨issued, sent, origin⟩ := publish_requests server destination.protocol
          notification notifier.settings.proxy requests
          (roomTargets destination.rooms destination.server token destination.sender)
        exact ⟨issued, sent, fun request member => ⟨token, rfl, origin request member⟩⟩
  · rw [deliver_of_roomless notifier server requests destination notification room]
    exact ⟨[], (List.append_nil requests).symm, by simp⟩

theorem deliver_carries :
    ∃ issued,
      (notifier.deliver server requests destination notification).requests =
          requests ++ issued ∧
        (issued ≠ [] → ∃ token,
          resolveToken notifier.credentials destination.credentialId destination.token
              destination.server = .ok token ∧
            ∀ request ∈ issued,
              request.Carries destination.protocol destination.server token) := by
  obtain ⟨issued, sent, origin⟩ :=
    deliver_requests notifier server requests destination notification
  refine ⟨issued, sent, fun nonempty => ?_⟩
  obtain ⟨first, member⟩ := List.exists_mem_of_ne_nil issued nonempty
  obtain ⟨token, resolved, _⟩ := origin first member
  refine ⟨token, resolved, ?_⟩
  intro request inside
  obtain ⟨other, same, target, listed, made⟩ := origin request inside
  obtain ⟨_, _, rfl⟩ := List.mem_map.mp listed
  cases resolved.symm.trans same
  have carried := carries_of_make made
  exact carried

end Deliver

/-- Every request of a call carries the token that was resolved for it, which is not blank.
A call that reaches delivery sends nothing to a destination without a token, which is an
error, nor to one without a room, which is none. -/
theorem requests_carry_resolved_token (notifier : Notifier) (server : Server)
    (moment : Moment) (requests : List Request) (call : Call) :
    let destination := call.destination notifier.settings
    let attempt := call.issue notifier server moment requests
    (∃ issued, attempt.requests = requests ++ issued ∧
      (issued ≠ [] → ∃ token,
        resolveToken notifier.credentials destination.credentialId destination.token
            destination.server = .ok token ∧
          allBlank token = false ∧
          ∀ request ∈ issued,
            request.Carries destination.protocol destination.server token)) ∧
      (call.ReachesDelivery notifier.settings →
        ∃ notification, call.notification? notifier moment = some notification ∧
          let delivery := notifier.deliver server requests destination notification
          (attempt = delivery.mapResult fun result =>
            underPolicy (call.failOnError notifier.settings) (result.map some)) ∧
          (destination.HasRoom → destination.LacksToken notifier.credentials →
            delivery = { requests, result := .error (.credentialMissing destination.server) }) ∧
          (¬ destination.HasRoom → delivery = { requests, result := .ok [] })) := by
  intro destination attempt
  refine ⟨?_, ?_⟩
  · cases found : call.notification? notifier moment with
    | none =>
        refine ⟨[], ?_, fun nonempty => absurd rfl nonempty⟩
        rw [List.append_nil]
        exact Call.requests_of_nothing found server requests
    | some notification =>
        obtain ⟨issued, sent, carried⟩ :=
          deliver_carries notifier server requests destination notification
        refine ⟨issued, ?_, ?_⟩
        · have whole : attempt = _ := Call.issue_of_notification found server requests
          rw [whole, Attempt.requests_mapResult]
          exact sent
        · intro nonempty
          obtain ⟨token, resolved, every⟩ := carried nonempty
          exact ⟨token, resolved, allBlank_of_resolveToken resolved, every⟩
  · intro reaches
    obtain ⟨notification, found⟩ := (Call.reachesDelivery_iff notifier moment call).mp reaches
    refine ⟨notification, found, Call.issue_of_notification found server requests, ?_,
      deliver_of_roomless notifier server requests destination notification⟩
    intro room lacking
    exact deliver_of_unresolved notifier server requests destination notification room
      (resolveToken_of_lacksToken lacking)

/-- A notifier for some rooms of a server that has a query of its own. The store has a blank token
for it. -/
def notifierFor (protocol : Protocol) (rooms token : String) : Notifier where
  settings :=
    { server := "http://chat.local/api?team=a%20b", rooms, token := some token
      credentialId := some "key", sender := "CI", protocol, timeoutMilliseconds := 10000
      proxy := .direct, failOnError := false, buildServer := none
      notifications := .builtIn }
  cardBuilder := .testSummary
  credentials := { lookup := fun _ _ => some " " }

/-- A message goes to two rooms over either protocol with the token that is left. With a blank
token none is left, and without a room none is asked for. -/
theorem message_carries_the_token_that_is_left :
    let call := Call.send { text := "hi" } none
    let sent (protocol : Protocol) :=
      (call.issue (notifierFor protocol "ops, dev" " s&t ") breakingServer default []).requests
    let delivered (rooms token : String) (notification : Notification) :=
      (notifierFor .v2 rooms token).deliver breakingServer []
        (notifierFor .v2 rooms token).settings.destination notification
    ((sent .v1).length = 2 ∧ ∀ request ∈ sent .v1,
        request.url.queryPairs = [(some "team", some "a b"), (some "auth_token", some "s&t")]) ∧
      ((sent .v2).length = 2 ∧ ∀ request ∈ sent .v2, request.bearer = some "s&t") ∧
      ∃ notification,
        delivered "ops" " " notification =
            { requests := []
              result := .error (.credentialMissing "http://chat.local/api?team=a%20b") } ∧
          delivered ", " " " notification = { requests := [], result := .ok [] } := by
  intro call sent delivered
  have usable (protocol : Protocol) :
      resolveToken (notifierFor protocol "ops, dev" " s&t ").credentials (some "key")
        (some " s&t ") "http://chat.local/api?team=a%20b" = .ok "s&t" := rfl
  have two (protocol : Protocol) : (sent protocol).length = 2 := by
    cases protocol <;> decide +kernel
  have own : ((serverUrl "http://chat.local/api?team=a%20b").toOption.map Url.queryPairs) =
      some [(some "team", some "a b")] := by
    decide +kernel
  have carried (protocol : Protocol) : ∀ request ∈ sent protocol,
      request.Carries protocol "http://chat.local/api?team=a%20b" "s&t" := by
    obtain ⟨⟨issued, same, carries⟩, _⟩ := requests_carry_resolved_token
      (notifierFor protocol "ops, dev" " s&t ") breakingServer default [] call
    have all : sent protocol = issued := same
    have issues : issued ≠ [] := by
      rintro rfl
      exact absurd (two protocol) (by rw [all]; decide)
    obtain ⟨token, resolved, _, every⟩ := carries issues
    cases (usable protocol).symm.trans resolved
    rw [all]
    exact every
  refine ⟨⟨two .v1, ?_⟩, ⟨two .v2, carried .v2⟩, ?_⟩
  · intro request member
    obtain ⟨_, base, based, pairs⟩ := carried .v1 request member
    rw [based] at own
    rw [pairs, Option.some.inj own]
    rfl
  · have lacking (rooms : String) : (notifierFor .v2 rooms " ").settings.destination.LacksToken
        (notifierFor .v2 rooms " ").credentials := by
      constructor
      · rintro id -
        refine Or.inr ?_
        rintro token ⟨⟩
        decide
      · rintro token ⟨⟩
        decide
    obtain ⟨_, reached⟩ := requests_carry_resolved_token
      (notifierFor .v2 "ops" " ") breakingServer default [] call
    obtain ⟨_, unreached⟩ := requests_carry_resolved_token
      (notifierFor .v2 ", " " ") breakingServer default [] call
    obtain ⟨notification, found, _, missing, _⟩ := reached rfl
    obtain ⟨other, again, _, _, silent⟩ := unreached rfl
    cases found.symm.trans again
    refine ⟨notification, missing ⟨"ops".toList, by decide, by decide⟩ (lacking "ops"), silent ?_⟩
    exact (roomTargets_eq_nil_iff _ "").mp (by decide +kernel)

end BuildNotices
