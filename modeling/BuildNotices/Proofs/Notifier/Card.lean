import BuildNotices.Notifier.AdHoc
import BuildNotices.Notifier.Event
import BuildNotices.Proofs.Notification.Summary
import BuildNotices.Proofs.Notifier.Policy
/-!
Cards that nobody can forge.

What the build contributes to the variables has no part in a card, neither in a notification
about a run nor in a message by hand. Which run is shown, and with which counts, is decided by
the run alone.
-/

namespace BuildNotices

open Text

/-- A run is shown as it is: by no card when it has no test results, and otherwise by a card
with its names, its address, its counts, and the report below that address. -/
def Run.IsShownBy (run : Run) (address : String) : Option Card → Prop
  | none => run.tests = none
  | some card => ∃ tests, run.tests = some tests ∧
      card.title = run.jobName ++ " - " ++ run.name ∧ card.url = address ∧
        card.attributes = tests.lines card.url

namespace Run.IsShownBy

variable {run : Run} {address : String} {card? : Option Card}

theorem eq_none (shown : run.IsShownBy address card?) (untested : run.tests = none) :
    card? = none := by
  cases card? with
  | none => rfl
  | some card =>
      obtain ⟨tests, tested, _⟩ := shown
      rw [untested] at tested
      cases tested

theorem exists_card (shown : run.IsShownBy address card?) {tests : TestSummary}
    (tested : run.tests = some tests) :
    ∃ card, card? = some card ∧ card.title = run.jobName ++ " - " ++ run.name ∧
      card.url = address ∧ card.attributes = tests.lines card.url := by
  cases card? with
  | none =>
      rw [shown] at tested
      cases tested
  | some card =>
      obtain ⟨others, same, faithful⟩ := shown
      rw [tested] at same
      cases same
      exact ⟨card, rfl, faithful⟩

end Run.IsShownBy

theorem isShownBy_build {bindings : Variables} {run : Run} {server : Option String}
    {now : Instant} (telling : bindings.TellAbout run server now) (id message : String)
    (icon : Option String) :
    run.IsShownBy (absoluteUrl server run.url)
      (CardBuilder.testSummary.build id (some run) bindings message icon) := by
  rw [CardBuilder.build_of_telling telling]
  cases tested : run.tests with
  | none => exact tested
  | some tests => exact ⟨tests, tested, rfl, rfl, rfl⟩

namespace Notifier

variable {notifier : Notifier} (moment : Moment) (run : Run)

theorem isShownBy_prepare (summing : notifier.cardBuilder = .testSummary) {category : Category}
    {settings : CategorySettings}
    (enabled : notifier.settings.notifications.select category = some settings) :
    ∃ notification, notifier.prepare moment run category = some notification ∧
      run.IsShownBy (absoluteUrl notifier.settings.buildServer run.url) notification.card := by
  have telling : (notifier.variablesFor moment run category).TellAbout run
      notifier.settings.buildServer moment.now :=
    (Variables.tellAbout_allVariables run notifier.settings.buildServer moment.now).forCategory
      category
  rw [prepare, enabled, Option.map_some, summing]
  exact ⟨_, rfl, isShownBy_build telling _ _ _⟩

theorem isShownBy_compose (summing : notifier.cardBuilder = .testSummary)
    (message : AdHocMessage) :
    run.IsShownBy (absoluteUrl notifier.settings.buildServer run.url)
      (notifier.compose moment message (some run)).card := by
  have telling :=
    Variables.tellAbout_allVariables run notifier.settings.buildServer moment.now
  rw [compose, summing]
  exact isShownBy_build telling _ _ _

theorem card_compose_none (message : AdHocMessage) :
    (notifier.compose moment message none).card = none :=
  CardBuilder.build_empty notifier.cardBuilder _ _ _

end Notifier

/-- The card of a notification shows the run, whatever the build puts into its environment and
its variables, and so does the card of a message by hand. A message without a run has none. -/
theorem cards_show_the_run (notifier : Notifier)
    (summing : notifier.cardBuilder = .testSummary) (moment : Moment) (run : Run)
    (environment buildVariables : Dictionary String) :
    let built : Run := { run with environment, buildVariables }
    let address := absoluteUrl notifier.settings.buildServer run.url
    (∀ category settings, notifier.settings.notifications.select category = some settings →
      ∃ notification, notifier.prepare moment built category = some notification ∧
        run.IsShownBy address notification.card) ∧
      (∀ message, run.IsShownBy address (notifier.compose moment message (some built)).card) ∧
      (∀ message, (notifier.compose moment message none).card = none) := by
  intro built address
  refine ⟨?_, ?_, ?_⟩
  · intro category settings enabled
    exact Notifier.isShownBy_prepare moment built summing enabled
  · intro message
    exact Notifier.isShownBy_compose moment built summing message
  · intro message
    exact Notifier.card_compose_none moment message

/-- A build that claims more tests, another job and another address than its run has. -/
def forgedEnvironment : Dictionary String :=
  .ofList [ ("JOB_DISPLAY_NAME", "other"), ("SUCCESS_TEST_COUNT", "99"), ("TEST_COUNT", "99"),
    ("TEST_REPORT_URL", "http://elsewhere/"), ("URL", "http://elsewhere/") ]

def testedRun : Run where
  jobName := "\x7b\x7bx\x7d\x7d & co"
  name := "#7"
  url := "http://ci/7/"
  tests := some { total := 4, failed := 1 }

def untestedRun : Run :=
  { testedRun with tests := none }

theorem cards_of_forging_build :
    twoRoomNotifier.cardBuilder = .testSummary ∧
      twoRoomNotifier.settings.notifications.select .failure = some (.builtIn .failure) ∧
      (∃ notification card,
        twoRoomNotifier.prepare default
            { testedRun with environment := forgedEnvironment, buildVariables := .empty }
            .failure = some notification ∧
          notification.card = some card ∧ card.title = "\x7b\x7bx\x7d\x7d & co - #7" ∧
          card.attributes.map CardAttribute.value = ["3", "1", "0", "4", "here"] ∧
          card.attributes.getLast?.bind CardAttribute.url = some "http://ci/7/testReport/") ∧
      (twoRoomNotifier.compose default { text := "hi" }
        (some { untestedRun with
          environment := forgedEnvironment, buildVariables := .empty })).card = none := by
  obtain ⟨shown, _, _⟩ := cards_show_the_run twoRoomNotifier rfl default testedRun
    forgedEnvironment .empty
  obtain ⟨_, composed, _⟩ := cards_show_the_run twoRoomNotifier rfl default untestedRun
    forgedEnvironment .empty
  obtain ⟨notification, prepared, faithful⟩ := shown .failure (.builtIn .failure) rfl
  refine ⟨rfl, rfl, ?_, (composed { text := "hi" }).eq_none rfl⟩
  obtain ⟨card, found, title, url, attributes⟩ := faithful.exists_card rfl
  rw [url] at attributes
  refine ⟨notification, card, prepared, found, title.trans (by decide), ?_, ?_⟩
  · rw [attributes]
    decide
  · rw [attributes]
    decide +kernel

end BuildNotices
