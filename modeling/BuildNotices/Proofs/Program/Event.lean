import BuildNotices.Program
import BuildNotices.Proofs.Delivery.Document
import BuildNotices.Proofs.Notifier.Token
import BuildNotices.Proofs.Program.Send
/-!
What a dry run says about the run that it stands for.

A dry run finds the category and the notification as the real run does, and prints the document
of the notification. The text shows which document that is, and the requests of the newer
protocol depend on nothing else of the notification.
-/

namespace BuildNotices

open Text CommandLine

namespace Program

/-! ### The text of a dry run -/

theorem behind_name (category : Category) (rest : List Char) :
    (category.name.toList ++ '\n' :: rest).dropWhile (fun c => c ≠ '\n') = '\n' :: rest := by
  have oneLine : '\n' ∉ category.name.toList := by cases category <;> decide
  exact (span_ne rest oneLine).2

def announcement (category : Category) : Option Notification → String
  | some notification =>
      "Dry run - would send notification:\n" ++ (V2.document notification).pretty ++ "\n"
  | none => "Notifications for " ++ category.name ++ " are disabled\n"

theorem dryRunText_eq (category : Category) (notification? : Option Notification) :
    dryRunText category notification? =
      "Category: " ++ category.name ++ "\n" ++ announcement category notification? := by
  cases notification? with
  | none => rfl
  | some notification => rfl

theorem announcement_none (category : Category) :
    announcement category none = "Notifications for " ++ category.name ++ " are disabled\n" := rfl

theorem announcement_some (category : Category) (notification : Notification) :
    announcement category (some notification) =
      "Dry run - would send notification:\n" ++ (V2.document notification).pretty ++ "\n" := rfl

theorem announcements_differ (category other : Category) (notification : Notification) :
    (announcement category none).toList ≠ (announcement other (some notification)).toList := by
  intro same
  rw [announcement_none, announcement_some] at same
  simp only [String.toList_append, List.append_assoc] at same
  cases same

theorem toList_dryRunText (category : Category) (notification? : Option Notification) :
    (dryRunText category notification?).toList =
      "Category: ".toList ++
        (category.name.toList ++ '\n' :: (announcement category notification?).toList) := by
  rw [dryRunText_eq, String.toList_append, String.toList_append, String.toList_append,
    List.append_assoc, List.append_assoc]
  rfl

theorem documents_eq_of_announcement {category other : Category}
    {notification? other? : Option Notification}
    (same : (announcement category notification?).toList = (announcement other other?).toList) :
    notification?.map V2.document = other?.map V2.document := by
  cases notification? with
  | none =>
      cases other? with
      | none => rfl
      | some second => exact absurd same (announcements_differ category other second)
  | some first =>
      cases other? with
      | none => exact absurd same.symm (announcements_differ other category first)
      | some second =>
          rw [announcement_some, announcement_some] at same
          simp only [String.toList_append, List.append_assoc] at same
          obtain ⟨sameDocument, -⟩ := Json.pretty_inj (V2.numberFree_document first)
            (V2.numberFree_document second) (List.append_cancel_left same)
          exact congrArg some sameDocument

/-- The text of a dry run shows whether there is a notification, and which document it has. -/
theorem documents_eq_of_dryRunText {category other : Category}
    {notification? other? : Option Notification}
    (same : dryRunText category notification? = dryRunText other other?) :
    notification?.map V2.document = other?.map V2.document := by
  have texts := congrArg String.toList same
  rw [toList_dryRunText, toList_dryRunText] at texts
  have behind := congrArg (List.dropWhile fun c => c ≠ '\n') (List.append_cancel_left texts)
  rw [behind_name, behind_name] at behind
  exact documents_eq_of_announcement (List.tail_eq_of_cons_eq behind)

theorem documents_eq_of_printed {category other : Category}
    {notification? other? : Option Notification}
    (printed : (Outcome.printed (dryRunText category notification?)).output =
      dryRunText other other?) :
    notification?.map V2.document = other?.map V2.document := by
  change dryRunText category notification? = _ at printed
  exact documents_eq_of_dryRunText printed

theorem dryRunText_ne_empty (category : Category) (notification? : Option Notification) :
    dryRunText category notification? ≠ "" := by
  intro empty
  have texts := congrArg String.toList empty
  rw [toList_dryRunText] at texts
  cases texts

/-! ### Both runs -/

section Event

variable {surroundings : Surroundings} {config : Config} {kind : EventKind} {runFile : String}

theorem settings_of_setUp {notifier : Notifier} (ready : setUp config = .ok notifier) :
    notifier.settings.destination =
        { rooms := config.chat.rooms
          server := config.chat.server
          credentialId := config.chat.credentialId
          token := config.chat.token
          sender := config.chat.sender
          protocol := config.chat.protocol } ∧
      notifier.settings.proxy = config.proxy ∧
      notifier.credentials = .ofTable config.credentials := by
  unfold setUp Notifier.ofConfig NotifierSettings.ofConfig at ready
  cases listed : config.table with
  | error error =>
      rw [listed] at ready
      cases ready
  | ok notifications =>
      rw [listed] at ready
      cases ready
      exact ⟨rfl, rfl, rfl⟩

/-- A dry run and the real run fail alike before the notifier is there, and then go on with the
same notifier and the same history. -/
theorem event_cases (surroundings : Surroundings) (config : Config) (kind : EventKind)
    (runFile : String) :
    (∃ text, ∀ onlyShow, event surroundings config kind runFile onlyShow = .failed text) ∨
      ∃ history notifier, setUp config = .ok notifier ∧
        event surroundings config kind runFile true =
          dryRun surroundings notifier kind history ∧
        event surroundings config kind runFile false =
          report surroundings notifier kind history := by
  cases loaded : loadRun surroundings.files runFile with
  | error text =>
      refine Or.inl ⟨text, fun onlyShow => ?_⟩
      rw [event, loaded]
      rfl
  | ok history =>
      cases ready : setUp config with
      | error text =>
          refine Or.inl ⟨text, fun onlyShow => ?_⟩
          rw [event, loaded, ready]
          rfl
      | ok notifier =>
          refine Or.inr ⟨history, notifier, rfl, ?_, ?_⟩
          · rw [event, loaded, ready]
            rfl
          · rw [event, loaded, ready]
            rfl

def heard (surroundings : Surroundings) (notifier : Notifier) (kind : EventKind)
    (history : History) : Attempt Unit :=
  match kind with
  | .started => notifier.onStarted surroundings.server surroundings.moment [] history.latest
  | .completed => notifier.onCompleted surroundings.server surroundings.moment [] history

variable {notifier : Notifier} {history : History}

theorem heard_of_category {category : Category} (found : categoryOf kind history = .ok category) :
    heard surroundings notifier kind history =
      (notifier.notify surroundings.server surroundings.moment [] history.latest
        category).mapResult fun result => result.map fun _ => () := by
  cases kind with
  | started =>
      cases found
      rfl
  | completed =>
      have classified : history.classify = .ok category := found
      rw [heard, Notifier.onCompleted, classified]

theorem heard_of_unclassified {error : NoticeError}
    (unclassified : categoryOf kind history = .error error) :
    heard surroundings notifier kind history = { requests := [], result := .error error } := by
  cases kind with
  | started => cases unclassified
  | completed =>
      have classified : history.classify = .error error := unclassified
      rw [heard, Notifier.onCompleted, classified]

theorem report_eq (surroundings : Surroundings) (notifier : Notifier) (kind : EventKind)
    (history : History) :
    report surroundings notifier kind history =
      match (heard surroundings notifier kind history).result with
      | .ok () => { requests := (heard surroundings notifier kind history).requests }
      | .error _ =>
          { requests := (heard surroundings notifier kind history).requests
            failure := some (.report "Failed to notify HipChat") } := rfl

theorem requests_report (surroundings : Surroundings) (notifier : Notifier) (kind : EventKind)
    (history : History) :
    (report surroundings notifier kind history).requests =
      (heard surroundings notifier kind history).requests := by
  rw [report_eq]
  cases (heard surroundings notifier kind history).result with
  | ok _ => rfl
  | error error => rfl

theorem report_of_unclassified {error : NoticeError}
    (unclassified : categoryOf kind history = .error error) :
    report surroundings notifier kind history = .failed "Failed to notify HipChat" := by
  rw [report_eq, heard_of_unclassified unclassified]
  rfl

theorem report_of_disabled {category : Category} (found : categoryOf kind history = .ok category)
    (disabled : notifier.prepare surroundings.moment history.latest category = none) :
    report surroundings notifier kind history = {} := by
  rw [report_eq, heard_of_category found, Notifier.notify, disabled]
  rfl

theorem requests_report_of_prepared {category : Category} {notification : Notification}
    (found : categoryOf kind history = .ok category)
    (prepared : notifier.prepare surroundings.moment history.latest category =
      some notification) :
    (report surroundings notifier kind history).requests =
      (notifier.deliver surroundings.server [] notifier.settings.destination
        notification).requests := by
  rw [requests_report, heard_of_category found, Notifier.notify, prepared]
  simp only [Attempt.requests_mapResult]

end Event

/-! ### The prediction -/

/-- What a dry run says about the run that it stands for. -/
structure Predicts (config : Config) (shown real : Outcome) : Prop where
  unsent : shown.requests = []
  /-- The text is one of a dry run, or there is a report. -/
  announces : shown.failure = none →
    ∃ category notification?, shown.output = dryRunText category notification?
  /-- Nothing is sent but the document that is shown. -/
  bodies : ∀ category notification,
    shown.output = dryRunText category (some notification) →
      ∀ request ∈ real.requests, request.body = .document (V2.document notification)
  /-- With a token and a client every room gets its request, if this can be made. -/
  requests : ∀ category notification,
    shown.output = dryRunText category (some notification) →
      ∀ token, resolveToken (.ofTable config.credentials) config.chat.credentialId
          config.chat.token config.chat.server = .ok token →
        config.proxy.prepare = .ok () →
          real.requests = requestsFor .v2 notification
            (roomTargets config.chat.rooms config.chat.server token config.chat.sender)
  disabled : ∀ category, shown.output = dryRunText category none →
    real.requests = [] ∧ real.failure = none
  fails : shown.failure ≠ none → real.requests = [] ∧ real.failure ≠ none

section Predictions

variable {config : Config} {real : Outcome}

theorem predicts_of_failed (text : String) (unsent : real.requests = [])
    (fails : real.failure ≠ none) : Predicts config (.failed text) real where
  unsent := rfl
  announces := fun succeeds => by cases succeeds
  bodies := fun category notification printed =>
    absurd printed.symm (dryRunText_ne_empty category notification)
  requests := fun category notification printed =>
    absurd printed.symm (dryRunText_ne_empty category notification)
  disabled := fun category printed => absurd printed.symm (dryRunText_ne_empty category none)
  fails := fun _ => ⟨unsent, fails⟩

theorem predicts_of_disabled (category : Category) (unsent : real.requests = [])
    (succeeds : real.failure = none) :
    Predicts config (.printed (dryRunText category none)) real where
  unsent := rfl
  announces := fun _ => ⟨category, none, rfl⟩
  bodies := fun _ _ printed => by cases documents_eq_of_printed printed
  requests := fun _ _ printed => by cases documents_eq_of_printed printed
  disabled := fun _ _ => ⟨unsent, succeeds⟩
  fails := fun fails => absurd rfl fails

theorem predicts_of_notification (category : Category) {notification : Notification}
    (bodies : ∀ request ∈ real.requests, request.body = .document (V2.document notification))
    (requests : ∀ token, resolveToken (.ofTable config.credentials) config.chat.credentialId
          config.chat.token config.chat.server = .ok token →
        config.proxy.prepare = .ok () →
          real.requests = requestsFor .v2 notification
            (roomTargets config.chat.rooms config.chat.server token config.chat.sender)) :
    Predicts config (.printed (dryRunText category (some notification))) real where
  unsent := rfl
  announces := fun _ => ⟨category, some notification, rfl⟩
  bodies := fun _ other printed => by
    have same : V2.document notification = V2.document other :=
      Option.some.inj (documents_eq_of_printed printed)
    rw [← same]
    exact bodies
  requests := fun _ other printed token resolved prepared => by
    have same : V2.document notification = V2.document other :=
      Option.some.inj (documents_eq_of_printed printed)
    rw [requests token resolved prepared, requestsFor_congr same]
  disabled := fun _ printed => by cases documents_eq_of_printed printed
  fails := fun fails => absurd rfl fails

theorem predicts_of_prepared {surroundings : Surroundings} {notifier : Notifier}
    {kind : EventKind} {history : History} {category : Category} {notification : Notification}
    (newer : config.chat.protocol = .v2) (ready : setUp config = .ok notifier)
    (found : categoryOf kind history = .ok category)
    (prepared : notifier.prepare surroundings.moment history.latest category =
      some notification) :
    Predicts config (.printed (dryRunText category (some notification)))
      (report surroundings notifier kind history) := by
  obtain ⟨destination, proxy, credentials⟩ := settings_of_setUp ready
  have sent := requests_report_of_prepared found prepared
  apply predicts_of_notification category
  · intro request member
    obtain ⟨issued, whole, origin⟩ := deliver_requests notifier surroundings.server []
      notifier.settings.destination notification
    rw [sent, whole] at member
    obtain ⟨token, _, target, _, made⟩ := origin request member
    rw [destination, newer] at made
    exact document_of_make made
  · intro token resolved client
    rw [← credentials] at resolved
    rw [← proxy] at client
    have all := deliver_requests_of_ready notifier surroundings.server []
      notifier.settings.destination notification (by rw [destination]; exact resolved) client
    rw [sent, all, destination, newer]
    rfl

end Predictions

/-- Under the newer protocol a dry run predicts the real run, whatever the server answers. -/
theorem dry_run_predicts_report (surroundings : Surroundings) (config : Config)
    (kind : EventKind) (runFile : String) (newer : config.chat.protocol = .v2) :
    Predicts config (event surroundings config kind runFile true)
      (event surroundings config kind runFile false) := by
  rcases event_cases surroundings config kind runFile with
    ⟨text, fails⟩ | ⟨history, notifier, ready, shown, real⟩
  · rw [fails true, fails false]
    exact predicts_of_failed text rfl (by rintro ⟨⟩)
  · rw [shown, real, dryRun]
    cases found : categoryOf kind history with
    | error error =>
        rw [report_of_unclassified found]
        exact predicts_of_failed error.message rfl (by rintro ⟨⟩)
    | ok category =>
        dsimp only
        cases prepared : notifier.prepare surroundings.moment history.latest category with
        | none =>
            rw [report_of_disabled found prepared]
            exact predicts_of_disabled category rfl rfl
        | some notification => exact predicts_of_prepared newer ready found prepared

def surroundedByRun (server : Server) (record : String) : Surroundings :=
  { surroundedBy server with
    files :=
      { look := fun path => if path = "run.json" then .content record else .absent } }

/-- The run has failed, and the second of two rooms does not take the notification. -/
theorem dry_run_predicts_failed_job :
    let surroundings := surroundedByRun breakingServer
      "\x7b\x22result\x22:\x22FAILURE\x22,\x22job_display_name\x22:\x22api\x22\x7d"
    let shown := event surroundings twoRoomConfig .completed "run.json" true
    let real := event surroundings twoRoomConfig .completed "run.json" false
    twoRoomConfig.chat.protocol = .v2 ∧ Predicts twoRoomConfig shown real ∧
      ∃ category notification, shown.output = dryRunText category (some notification) ∧
        real.requests.length = 2 ∧
          real.requests = requestsFor .v2 notification
            (roomTargets "ops, dev" "http://chat.local" "secret" "Build Server") := by
  intro surroundings shown real
  have predicts : Predicts twoRoomConfig shown real :=
    dry_run_predicts_report surroundings twoRoomConfig .completed "run.json" rfl
  have both : real.requests.length = 2 := by decide +kernel
  refine ⟨rfl, predicts, ?_⟩
  obtain ⟨category, notification?, printed⟩ := predicts.announces (by decide +kernel)
  cases notification? with
  | none =>
      rw [(predicts.disabled category printed).1] at both
      cases both
  | some notification =>
      refine ⟨category, notification, printed, both, ?_⟩
      exact predicts.requests category notification printed "secret" (by rfl) (by rfl)

end Program
end BuildNotices
