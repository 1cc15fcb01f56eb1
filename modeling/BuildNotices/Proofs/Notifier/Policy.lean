import BuildNotices.Proofs.Notifier.Token
/-!
What the policy on failures decides.

A call comes to the same outcome under every policy, with the same requests, because the
policy is applied only when everything has been sent. What a lenient call reports can be
read off the report of a strict one, and an outcome is never an error that every policy
reports: only a run without a category is one, and it is found before anything is sent.
-/

namespace BuildNotices

open Text

/-- The policy that a call runs under: the one of the settings, and in its place the one
that a message by hand states. -/
structure Policy where
  configured : Bool
  stated : Option Bool := none
deriving Repr, DecidableEq

def Notifier.withFailOnError (notifier : Notifier) (failOnError : Bool) : Notifier :=
  { notifier with settings := { notifier.settings with failOnError } }

namespace Call

def stating (stated : Option Bool) : Call → Call
  | .notify run category => .notify run category
  | .send message run =>
      .send { message with overrides := { message.overrides with failOnError := stated } } run

def issueUnder (policy : Policy) (notifier : Notifier) (server : Server) (moment : Moment)
    (requests : List Request) (call : Call) : Attempt (Option (List String)) :=
  (call.stating policy.stated).issue (notifier.withFailOnError policy.configured) server moment
    requests

def failsOnError (policy : Policy) : Call → Bool
  | .notify _ _ => policy.configured
  | .send _ _ => policy.stated.getD policy.configured

def resultOfNothing : Call → Except NoticeError (Option (List String))
  | .notify _ _ => .ok none
  | .send _ _ => .error .messageRequired

def outcome (notifier : Notifier) (server : Server) (moment : Moment) (requests : List Request)
    (call : Call) : Attempt (Option (List String)) :=
  match call.notification? notifier moment with
  | none => { requests, result := call.resultOfNothing }
  | some notification =>
      (notifier.deliver server requests (call.destination notifier.settings)
        notification).mapResult fun result => result.map some

end Call

/-- What a lenient call reports in place of the report of a strict one. -/
def softened {α : Type} : Except NoticeError (Option α) → Except NoticeError (Option α)
  | .ok value => .ok value
  | .error (.unclassifiable result) => .error (.unclassifiable result)
  | .error _ => .ok none

/-! ### The policy by itself -/

theorem underPolicy_true {α : Type} (result : Except NoticeError (Option α)) :
    underPolicy true result = result := by
  cases result with
  | ok value => rfl
  | error error => rfl

theorem underPolicy_false {α : Type} (result : Except NoticeError (Option α)) :
    underPolicy false result = softened result := by
  cases result with
  | ok value => rfl
  | error error => cases error <;> rfl

theorem underPolicy_false_eq_ok {α : Type} {result : Except NoticeError (Option α)}
    (silent : ∀ error, result = .error error → error.isAlwaysReported = false) :
    ∃ value, underPolicy false result = .ok value := by
  cases result with
  | ok value => exact ⟨value, rfl⟩
  | error error =>
      refine ⟨none, ?_⟩
      have quiet := silent error rfl
      simp only [underPolicy, quiet, Bool.false_or, Bool.false_eq_true, if_false]

theorem underPolicy_error_eq_ok {α : Type} {failOnError : Bool} {error : NoticeError}
    {value : Option α} (silent : underPolicy failOnError (.error error) = .ok value) :
    value = none ∧ failOnError = false := by
  cases failOnError with
  | true =>
      rw [underPolicy_true] at silent
      cases silent
  | false =>
      rw [underPolicy_false] at silent
      cases error with
      | unclassifiable result => cases silent
      | _ =>
          cases silent
          exact ⟨rfl, rfl⟩

/-! ### Errors of a delivery -/

theorem isAlwaysReported_of_prepare {proxy : ProxySettings} {error : NoticeError}
    (refused : proxy.prepare = .error error) : error.isAlwaysReported = false := by
  cases proxy with
  | environment => cases refused
  | direct => cases refused
  | manual proxy =>
      simp only [ProxySettings.prepare] at refused
      split at refused
      next => cases refused
      next =>
        cases refused
        rfl

theorem isAlwaysReported_of_combine {outcomes : List (String × Except NoticeError Unit)}
    {error : NoticeError} (failed : combine outcomes = .error error) :
    error.isAlwaysReported = false := by
  unfold combine at failed
  split at failed
  next => cases failed
  next =>
    cases failed
    rfl

theorem isAlwaysReported_of_publish {server : Server} {proxy : ProxySettings}
    {protocol : Protocol} {notification : Notification} {requests : List Request}
    {targets : List Target} {error : NoticeError}
    (failed : (publish server proxy protocol notification requests targets).result =
      .error error) : error.isAlwaysReported = false := by
  unfold publish at failed
  split at failed
  next => cases failed
  next =>
    cases prepared : proxy.prepare with
    | error reason =>
        simp only [prepared] at failed
        cases failed
        exact isAlwaysReported_of_prepare prepared
    | ok _ =>
        simp only [prepared] at failed
        exact isAlwaysReported_of_combine failed

theorem isAlwaysReported_of_resolveToken {store : CredentialStore}
    {credentialId explicit : Option String} {server : String} {error : NoticeError}
    (failed : resolveToken store credentialId explicit server = .error error) :
    error.isAlwaysReported = false := by
  unfold resolveToken at failed
  split at failed
  next => cases failed
  next =>
    cases failed
    rfl

theorem isAlwaysReported_of_deliver {notifier : Notifier} {server : Server}
    {requests : List Request} {destination : Destination} {notification : Notification}
    {error : NoticeError}
    (failed : (notifier.deliver server requests destination notification).result =
      .error error) : error.isAlwaysReported = false := by
  by_cases room : destination.HasRoom
  · cases resolved : resolveToken notifier.credentials destination.credentialId
        destination.token destination.server with
    | error reason =>
        rw [deliver_of_unresolved notifier server requests destination notification room
          resolved] at failed
        cases failed
        exact isAlwaysReported_of_resolveToken resolved
    | ok token =>
        rw [deliver_of_resolved notifier server requests destination notification room
          resolved] at failed
        exact isAlwaysReported_of_publish failed
  · rw [deliver_of_roomless notifier server requests destination notification room] at failed
    cases failed

/-! ### Calls -/

namespace Call

section Outcome

variable (notifier : Notifier) (server : Server) (moment : Moment) (requests : List Request)
  (call : Call)

theorem issue_eq_outcome :
    call.issue notifier server moment requests =
      (call.outcome notifier server moment requests).mapResult
        (underPolicy (call.failOnError notifier.settings)) := by
  unfold outcome
  cases found : call.notification? notifier moment with
  | some notification =>
      rw [issue_of_notification found server requests, Attempt.mapResult_mapResult]
  | none =>
      cases call with
      | notify run category =>
          simp only [notification?] at found
          simp only [issue, Notifier.notify, found]
          rfl
      | send message run =>
          by_cases blank : allBlank message.text = true
          · simp only [issue, Notifier.sendMessage, if_pos blank]
            rfl
          · simp [notification?, blank] at found

theorem notification?_under_policy (policy : Policy) :
    (call.stating policy.stated).notification? (notifier.withFailOnError policy.configured)
        moment =
      call.notification? notifier moment := by
  cases call with
  | notify run category => rfl
  | send message run => rfl

theorem destination_under_policy (policy : Policy) :
    (call.stating policy.stated).destination
        (notifier.withFailOnError policy.configured).settings =
      call.destination notifier.settings := by
  cases call with
  | notify run category => rfl
  | send message run => rfl

theorem resultOfNothing_stating (stated : Option Bool) :
    (call.stating stated).resultOfNothing = call.resultOfNothing := by
  cases call with
  | notify run category => rfl
  | send message run => rfl

/-- The policy has no part in what is sent, nor in what comes of it. -/
theorem outcome_under_policy (policy : Policy) :
    (call.stating policy.stated).outcome (notifier.withFailOnError policy.configured) server
        moment requests =
      call.outcome notifier server moment requests := by
  unfold outcome
  rw [notification?_under_policy, destination_under_policy, resultOfNothing_stating]
  rfl

theorem issueUnder_eq (policy : Policy) :
    call.issueUnder policy notifier server moment requests =
      (call.outcome notifier server moment requests).mapResult
        (underPolicy (call.failsOnError policy)) := by
  rw [issueUnder, issue_eq_outcome, outcome_under_policy]
  cases call with
  | notify run category => rfl
  | send message run => rfl

theorem isAlwaysReported_of_outcome {error : NoticeError}
    (failed : (call.outcome notifier server moment requests).result = .error error) :
    error.isAlwaysReported = false := by
  unfold outcome at failed
  cases found : call.notification? notifier moment with
  | none =>
      simp only [found] at failed
      cases call with
      | notify run category => cases failed
      | send message run =>
          cases failed
          rfl
  | some notification =>
      simp only [found, Attempt.mapResult] at failed
      cases delivered : (notifier.deliver server requests (call.destination notifier.settings)
          notification).result with
      | ok rooms =>
          rw [delivered] at failed
          cases failed
      | error reason =>
          rw [delivered] at failed
          cases failed
          exact isAlwaysReported_of_deliver delivered

theorem issue_eq_ok_of_lenient (lenient : call.failOnError notifier.settings = false) :
    ∃ rooms, (call.issue notifier server moment requests).result = .ok rooms := by
  rw [issue_eq_outcome, lenient]
  exact underPolicy_false_eq_ok fun error failed =>
    isAlwaysReported_of_outcome notifier server moment requests call failed

end Outcome

end Call

/-! ### Runs that start and end -/

/-- A run that belongs to no category: it is in progress, or its outcome is not known. -/
def Run.LacksCategory (run : Run) : Prop :=
  run.result = none ∨ run.result = some .unknown

theorem classify_of_lacksCategory {history : History}
    (lacking : history.latest.LacksCategory) :
    ∃ outcome, history.classify = .error (.unclassifiable outcome) := by
  rcases lacking with building | unknown
  · exact ⟨"in progress", by simp only [History.classify, building]⟩
  · exact ⟨Result.unknown.name, by simp only [History.classify, unknown, classify]⟩

theorem classify_eq_ok {history : History} (ended : ¬ history.latest.LacksCategory) :
    ∃ category, history.classify = .ok category := by
  unfold Run.LacksCategory at ended
  unfold History.classify
  cases result : history.latest.result with
  | none => exact absurd (Or.inl result) ended
  | some current =>
      cases current with
      | unknown => exact absurd (Or.inr result) ended
      | success => exact ⟨_, rfl⟩
      | failure => exact ⟨_, rfl⟩
      | unstable => exact ⟨_, rfl⟩
      | aborted => exact ⟨_, rfl⟩
      | notBuilt => exact ⟨_, rfl⟩

section Events

variable {notifier : Notifier} (server : Server) (moment : Moment) (requests : List Request)

theorem notify_eq_ok_of_lenient (lenient : notifier.settings.failOnError = false) (run : Run)
    (category : Category) :
    ∃ rooms, (notifier.notify server moment requests run category).result = .ok rooms :=
  Call.issue_eq_ok_of_lenient notifier server moment requests (.notify run category) lenient

theorem onStarted_eq_ok_of_lenient (lenient : notifier.settings.failOnError = false)
    (run : Run) : (notifier.onStarted server moment requests run).result = .ok () := by
  obtain ⟨rooms, reported⟩ := notify_eq_ok_of_lenient server moment requests lenient run .started
  simp only [Notifier.onStarted, Attempt.mapResult, reported]
  rfl

theorem onCompleted_of_lacksCategory {history : History}
    (lacking : history.latest.LacksCategory) :
    ∃ outcome, notifier.onCompleted server moment requests history =
      { requests, result := .error (.unclassifiable outcome) } := by
  obtain ⟨outcome, refused⟩ := classify_of_lacksCategory lacking
  exact ⟨outcome, by simp only [Notifier.onCompleted, refused]⟩

theorem onCompleted_eq_ok_of_lenient (lenient : notifier.settings.failOnError = false)
    {history : History} (ended : ¬ history.latest.LacksCategory) :
    (notifier.onCompleted server moment requests history).result = .ok () := by
  obtain ⟨category, classified⟩ := classify_eq_ok ended
  obtain ⟨rooms, reported⟩ :=
    notify_eq_ok_of_lenient server moment requests lenient history.latest category
  simp only [Notifier.onCompleted, classified, Attempt.mapResult, reported]
  rfl

end Events

/-- The policy changes what is reported and never what is sent. A lenient call sends the
requests of a strict one, and reports its success, or nothing in place of its error, unless
that is about a run without a category. So no lenient call fails, apart from the report that
such a run has ended, and there nothing is sent. -/
theorem policy_changes_only_the_report (notifier : Notifier) (server : Server)
    (moment : Moment) (requests : List Request) :
    (∀ (call : Call) (strict lenient : Policy),
      call.failsOnError strict = true → call.failsOnError lenient = false →
      let underStrict := call.issueUnder strict notifier server moment requests
      let underLenient := call.issueUnder lenient notifier server moment requests
      underLenient.requests = underStrict.requests ∧
        underLenient.result = softened underStrict.result) ∧
      (∀ call : Call, call.failOnError notifier.settings = false →
        ∃ rooms, (call.issue notifier server moment requests).result = .ok rooms) ∧
      (notifier.settings.failOnError = false →
        (∀ run, (notifier.onStarted server moment requests run).result = .ok ()) ∧
          ∀ history : History,
            (history.latest.LacksCategory →
              ∃ outcome, notifier.onCompleted server moment requests history =
                { requests, result := .error (.unclassifiable outcome) }) ∧
            (¬ history.latest.LacksCategory →
              (notifier.onCompleted server moment requests history).result = .ok ())) := by
  refine ⟨?_, ?_, ?_⟩
  · intro call strict lenient failing forgiving underStrict underLenient
    have strictly : underStrict = _ :=
      Call.issueUnder_eq notifier server moment requests call strict
    have leniently : underLenient = _ :=
      Call.issueUnder_eq notifier server moment requests call lenient
    rw [strictly, leniently, failing, forgiving]
    refine ⟨rfl, ?_⟩
    simp only [Attempt.mapResult, underPolicy_true, underPolicy_false]
  · intro call lenient
    exact Call.issue_eq_ok_of_lenient notifier server moment requests call lenient
  · intro lenient
    refine ⟨onStarted_eq_ok_of_lenient server moment requests lenient, fun history => ⟨?_, ?_⟩⟩
    · exact onCompleted_of_lacksCategory server moment requests
    · exact onCompleted_eq_ok_of_lenient server moment requests lenient

def twoRoomNotifier : Notifier where
  settings :=
    { server := "http://chat.local", rooms := "ops, dev", token := some "secret"
      credentialId := none, sender := "CI", protocol := .v2, timeoutMilliseconds := 10000
      proxy := .direct, failOnError := false, buildServer := none
      notifications := .builtIn }
  cardBuilder := .testSummary
  credentials := .nothing

/-- The second room does not take the message. Both policies send two requests, and only the
strict one of the message itself reports the failure. -/
theorem policy_hides_failed_room :
    let call := Call.send { text := "hi" } none
    let issue (policy : Policy) := call.issueUnder policy twoRoomNotifier breakingServer default []
    let strict : Policy := { configured := false, stated := some true }
    let lenient : Policy := { configured := false }
    call.failsOnError strict = true ∧ call.failsOnError lenient = false ∧
      twoRoomNotifier.settings.failOnError = false ∧
      (issue lenient).requests = (issue strict).requests ∧
      (issue strict).requests.length = 2 ∧
      (∃ failures, (issue strict).result = .error (.publishFailed 2 failures) ∧
        failures.map Prod.fst = ["dev"]) ∧
      (issue lenient).result = .ok none := by
  intro call issue strict lenient
  have compared := (policy_changes_only_the_report twoRoomNotifier breakingServer default []).1
    call strict lenient rfl rfl
  have sent : (issue strict).requests.length = 2 := by decide +kernel
  have failed : (match (issue strict).result with
      | .error (.publishFailed attempted failures) => some (attempted, failures.map Prod.fst)
      | _ => none) = some (2, ["dev"]) := by
    decide +kernel
  have reported : ∃ failures, (issue strict).result = .error (.publishFailed 2 failures) ∧
      failures.map Prod.fst = ["dev"] := by
    split at failed
    next attempted failures same =>
      simp only [Option.some.injEq, Prod.mk.injEq] at failed
      exact ⟨failures, failed.1 ▸ same, failed.2⟩
    next => cases failed
  refine ⟨rfl, rfl, rfl, compared.1, sent, reported, ?_⟩
  obtain ⟨failures, same, _⟩ := reported
  have hidden : (issue lenient).result = softened (issue strict).result := compared.2
  rw [hidden, same]
  rfl

end BuildNotices
