import BuildNotices.Notification.Summary
import BuildNotices.Proofs.Variables.Reading
import Std.Data.String.ToNat
/-!
Cards of runs.

The counts of test results are written in decimal digits, so none of them is empty, and a run
without test results has none of the variables that a card is made of. From bindings that tell
about a run a card is therefore made exactly when the run has test results, and it shows them
as they are.
-/

namespace BuildNotices

open Text

/-! ### Variables about test results -/

def ReservedName.isAboutTests : ReservedName → Bool
  | .testCount => true
  | .failedTestCount => true
  | .skippedTestCount => true
  | .successTestCount => true
  | .testReportUrl => true
  | _ => false

theorem ReservedName.not_dependsOnCategory_of_isAboutTests {name : ReservedName}
    (about : name.isAboutTests = true) : name.dependsOnCategory = false := by
  cases name <;> first | rfl | cases about

namespace Run

theorem changeVariables_untested (run : Run) :
    run.changeVariables.all (fun entry => !entry.1.isAboutTests) = true := by
  unfold changeVariables
  cases run.changeReport with
  | absent => rfl
  | incomplete summary => rfl
  | complete summary commitMessage => rfl

/-- Behind the variables about test results no other one is about them. -/
theorem ownVariables_eq_tests_append (run : Run) (server : Option String) (now : Instant) :
    ∃ others, run.ownVariables server now =
        run.testVariables (absoluteUrl server run.url) ++ others ∧
      others.all (fun entry => !entry.1.isAboutTests) = true := by
  refine ⟨_, List.append_assoc _ _ _, ?_⟩
  rw [List.all_append, changeVariables_untested]
  rfl

theorem mem_ownVariables_iff_of_isAboutTests {run : Run} {server : Option String}
    {now : Instant} {name : ReservedName} {value : String}
    (about : name.isAboutTests = true) :
    (name, value) ∈ run.ownVariables server now ↔
      (name, value) ∈ run.testVariables (absoluteUrl server run.url) := by
  obtain ⟨others, whole, untested⟩ := ownVariables_eq_tests_append run server now
  rw [whole, List.mem_append]
  constructor
  · rintro (tests | other)
    · exact tests
    · have silent := List.all_eq_true.mp untested _ other
      rw [about] at silent
      cases silent
  · exact Or.inl

end Run

/-! ### Counts in decimal digits -/

theorem toString_toNat_ne_empty (count : UInt64) : toString count.toNat ≠ "" := by
  rw [Nat.toString_eq_repr]
  exact Nat.repr_ne_empty

theorem toString_toNat_eq_zero_iff (count : UInt64) :
    toString count.toNat = "0" ↔ count = 0 := by
  have zero : "0" = Nat.repr 0 := by decide
  rw [Nat.toString_eq_repr, zero, Nat.repr_inj, ← UInt64.toNat_zero, UInt64.toNat_inj]

/-! ### The card of a run -/

/-- The lines that a card shows about test results: the tests that passed, failed, and were
skipped, all of them, and where the report is. -/
def TestSummary.lines (tests : TestSummary) (address : String) : List CardAttribute :=
  [ .styled "Tests successful" (toString tests.passed.toNat)
      (if tests.passed = 0 then .error else .success),
    .styled "Tests failed" (toString tests.failed.toNat)
      (if tests.failed = 0 then .success else .error),
    .styled "Tests skipped" (toString tests.skipped.toNat)
      (if tests.skipped = 0 then .success else .current),
    { label := "Tests total", value := toString tests.total.toNat },
    .link "Test report" "here" (address ++ tests.reportPath) ]

namespace Card

variable {bindings : Variables}

theorem count?_eq_none {name : ReservedName} (absent : bindings.read? name = none) :
    count? bindings name = none := by
  rw [count?, absent, Option.filter_none]

theorem count?_eq_some {name : ReservedName} {text : String}
    (found : bindings.read? name = some text) (written : text ≠ "") :
    count? bindings name = some text := by
  rw [count?, found, Option.filter_some_pos (by simpa using written)]

theorem countAttribute_of_count {name : ReservedName} {count : UInt64}
    (found : bindings.read? name = some (toString count.toNat)) (label : String)
    (zero other : AttributeStyle) :
    countAttribute bindings name label zero other =
      some (.styled label (toString count.toNat) (if count = 0 then zero else other)) := by
  rw [countAttribute, count?_eq_some found (toString_toNat_ne_empty count), Option.map_some]
  simp only [toString_toNat_eq_zero_iff]

section Run

variable {run : Run} {server : Option String} {now : Instant}

theorem attributesFor_of_untested (telling : bindings.TellAbout run server now)
    (untested : run.tests = none) : attributesFor (some run) bindings = [] := by
  have absent (name : ReservedName) (about : name.isAboutTests = true) :
      count? bindings name = none := by
    refine count?_eq_none (telling.read?_eq_none
      (ReservedName.not_dependsOnCategory_of_isAboutTests about) ?_)
    intro value member
    have listed := (Run.mem_ownVariables_iff_of_isAboutTests about).mp member
    rw [Run.testVariables, untested] at listed
    cases listed
  have nothing : countAttributes bindings = [] := by
    simp only [countAttributes, countAttribute, absent .successTestCount rfl,
      absent .failedTestCount rfl, absent .skippedTestCount rfl, absent .testCount rfl]
    rfl
  rw [attributesFor, nothing]

theorem reportUrl_of_tests (telling : bindings.TellAbout run server now) {tests : TestSummary}
    (tested : run.tests = some tests) :
    reportUrl (some run) bindings = absoluteUrl server run.url ++ tests.reportPath := by
  have address : bindings.value ReservedName.url.text = absoluteUrl server run.url :=
    telling.value_of_mem (by simp [Run.ownVariables])
  have found : bindings.read? .testReportUrl =
      some (absoluteUrl server run.url ++ tests.reportPath) := by
    refine telling.read?_of_mem ((Run.mem_ownVariables_iff_of_isAboutTests rfl).mpr ?_)
    simp [Run.testVariables, tested]
  rw [reportUrl, address, Option.bind_some, tested, Option.map_some, Option.getD_some]
  -- An empty variable is passed over, and then the same parts are joined again.
  by_cases written : absoluteUrl server run.url ++ tests.reportPath = ""
  · have passed : count? bindings .testReportUrl = none := by
      rw [count?, found, Option.filter_some_neg (by simpa using written)]
    rw [passed, Option.getD_none]
  · rw [count?_eq_some found written, Option.getD_some]

theorem attributesFor_of_tests (telling : bindings.TellAbout run server now)
    {tests : TestSummary} (tested : run.tests = some tests) :
    attributesFor (some run) bindings = tests.lines (absoluteUrl server run.url) := by
  have read {name : ReservedName} {value : String} (about : name.isAboutTests = true)
      (listed : (name, value) ∈ run.testVariables (absoluteUrl server run.url)) :
      bindings.read? name = some value :=
    telling.read?_of_mem ((Run.mem_ownVariables_iff_of_isAboutTests about).mpr listed)
  have passed : bindings.read? .successTestCount = some (toString tests.passed.toNat) :=
    read rfl (by simp [Run.testVariables, tested])
  have failed : bindings.read? .failedTestCount = some (toString tests.failed.toNat) :=
    read rfl (by simp [Run.testVariables, tested])
  have skipped : bindings.read? .skippedTestCount = some (toString tests.skipped.toNat) :=
    read rfl (by simp [Run.testVariables, tested])
  have total : bindings.read? .testCount = some (toString tests.total.toNat) :=
    read rfl (by simp [Run.testVariables, tested])
  have counts : countAttributes bindings =
      (tests.lines (absoluteUrl server run.url)).dropLast := by
    simp only [countAttributes, countAttribute_of_count passed, countAttribute_of_count failed,
      countAttribute_of_count skipped, count?_eq_some total (toString_toNat_ne_empty tests.total)]
    rfl
  rw [attributesFor, counts, reportUrl_of_tests telling tested]
  rfl

theorem titleFor_of_telling (telling : bindings.TellAbout run server now) :
    titleFor bindings = run.jobName ++ " - " ++ run.name := by
  have job : bindings.value ReservedName.jobDisplayName.text = run.jobName :=
    telling.value_of_mem (by simp [Run.ownVariables])
  have name : bindings.value ReservedName.buildDisplayName.text = run.name :=
    telling.value_of_mem (by simp [Run.ownVariables])
  rw [titleFor, job, name]

end Run

end Card

/-- A run with test results has the card that shows them, and any other run has none. -/
theorem CardBuilder.build_of_telling {bindings : Variables} {run : Run} {server : Option String}
    {now : Instant} (telling : bindings.TellAbout run server now) (id message : String)
    (icon : Option String) :
    testSummary.build id (some run) bindings message icon =
      run.tests.map fun tests =>
        { style := "application"
          url := absoluteUrl server run.url
          format := "medium"
          id := id
          title := run.jobName ++ " - " ++ run.name
          icon := Card.iconFor icon
          attributes := tests.lines (absoluteUrl server run.url)
          activityHtml := message } := by
  have address : bindings.value ReservedName.url.text = absoluteUrl server run.url :=
    telling.value_of_mem (by simp [Run.ownVariables])
  cases tested : run.tests with
  | none =>
      simp only [build, Card.attributesFor_of_untested telling tested]
      rfl
  | some tests =>
      simp only [build, Card.attributesFor_of_tests telling tested, address,
        Card.titleFor_of_telling telling]
      rfl

/-- Without a run and without variables there is nothing to show. -/
theorem CardBuilder.build_empty (builder : CardBuilder) (id message : String)
    (icon : Option String) : builder.build id none .empty message icon = none := by
  cases builder with
  | nothing => rfl
  | testSummary => rfl

end BuildNotices
