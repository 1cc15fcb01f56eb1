import BuildNotices.Proofs.Notification.Summary
/-!
The lines of a card.

A card has a line for every count that is present, whatever the variables are, and behind these a
link to the report. Where no variable names the report, the link is made of the address and the
path of the report, which for the variables of a run gives the same link.
-/

namespace BuildNotices

open Text

namespace Card

def countNames : List ReservedName :=
  [.successTestCount, .failedTestCount, .skippedTestCount, .testCount]

def presentCounts (bindings : Variables) : List ReservedName :=
  countNames.filter fun name => bindings.value name.text ≠ ""

def countLabel : ReservedName → String
  | .successTestCount => "Tests successful"
  | .failedTestCount => "Tests failed"
  | .skippedTestCount => "Tests skipped"
  | _ => "Tests total"

/-- How a count is set off: no success is an error, no failure and no skip are a success. -/
def countStyle (name : ReservedName) (text : String) : Option AttributeStyle :=
  match name with
  | .successTestCount => some (if text = "0" then .error else .success)
  | .failedTestCount => some (if text = "0" then .success else .error)
  | .skippedTestCount => some (if text = "0" then .success else .current)
  | _ => none

/-- The line of a count shows the text of its variable, whatever that is. -/
def countLine (bindings : Variables) (name : ReservedName) : CardAttribute where
  label := countLabel name
  value := bindings.value name.text
  style := countStyle name (bindings.value name.text)
  url := none

def reportPath (run : Option Run) : String :=
  match run.bind Run.tests with
  | some tests => tests.reportPath
  | none => "testReport/"

def reportLine (run : Option Run) (bindings : Variables) : CardAttribute where
  label := "Test report"
  value := "here"
  style := none
  url := some
    (if bindings.value ReservedName.testReportUrl.text ≠ "" then
      bindings.value ReservedName.testReportUrl.text
    else
      bindings.value ReservedName.url.text ++ reportPath run)

/-! ### Lines of any variables -/

section Lines

variable (bindings : Variables)

theorem value_eq_empty_iff (name : ReservedName) :
    bindings.value name.text = "" ↔
      bindings.read? name = none ∨ bindings.read? name = some "" := by
  rw [Variables.value, Variables.read?]
  cases bindings.get? name.text with
  | none => simp
  | some text => simp

theorem count?_eq (name : ReservedName) :
    count? bindings name =
      if bindings.value name.text ≠ "" then some (bindings.value name.text) else none := by
  rw [count?, Variables.value, Variables.read?]
  cases bindings.get? name.text with
  | none => rfl
  | some text =>
      by_cases empty : text = ""
      · simp [empty]
      · simp [empty]

/-- Every kind of count is looked at in the same way: it has its line, or none. -/
theorem countAttribute_eq (name : ReservedName) (label : String) (zero other : AttributeStyle)
    (labelled : countLabel name = label)
    (styled : ∀ text, countStyle name text = some (if text = "0" then zero else other)) :
    countAttribute bindings name label zero other =
      if bindings.value name.text ≠ "" then some (countLine bindings name) else none := by
  rw [countAttribute, count?_eq, countLine, labelled, styled]
  split <;> rfl

theorem totalAttribute_eq :
    ((count? bindings .testCount).map fun text =>
      ({ label := "Tests total", value := text } : CardAttribute)) =
        if bindings.value ReservedName.testCount.text ≠ "" then
          some (countLine bindings .testCount) else none := by
  rw [count?_eq]
  split <;> rfl

theorem filterMap_ite {α β : Type} (keep : α → Prop) [DecidablePred keep] (line : α → β)
    (items : List α) :
    items.filterMap (fun item => if keep item then some (line item) else none) =
      (items.filter fun item => keep item).map line := by
  induction items with
  | nil => rfl
  | cons item items ih =>
      by_cases kept : keep item
      · simp [kept, ih]
      · simp [kept, ih]

theorem countAttributes_eq :
    countAttributes bindings = (presentCounts bindings).map (countLine bindings) := by
  rw [countAttributes,
    countAttribute_eq bindings .successTestCount "Tests successful" .error .success rfl
      fun _ => rfl,
    countAttribute_eq bindings .failedTestCount "Tests failed" .success .error rfl fun _ => rfl,
    countAttribute_eq bindings .skippedTestCount "Tests skipped" .success .current rfl fun _ => rfl,
    totalAttribute_eq, presentCounts, ← filterMap_ite]
  rfl

theorem link_reportUrl (run : Option Run) :
    CardAttribute.link "Test report" "here" (reportUrl run bindings) = reportLine run bindings := by
  have path : ((run.bind Run.tests).map TestSummary.reportPath).getD "testReport/" =
      reportPath run := by
    unfold reportPath
    cases run.bind Run.tests <;> rfl
  rw [reportUrl, count?_eq, path, reportLine]
  split <;> rfl

theorem attributesFor_eq (run : Option Run) :
    attributesFor run bindings =
      if presentCounts bindings = [] then []
      else (presentCounts bindings).map (countLine bindings) ++ [reportLine run bindings] := by
  rw [attributesFor, countAttributes_eq, link_reportUrl]
  cases presentCounts bindings with
  | nil => rfl
  | cons name names => rfl

theorem presentCounts_eq_nil_iff :
    presentCounts bindings = [] ↔
      ∀ name ∈ countNames, bindings.read? name = none ∨ bindings.read? name = some "" := by
  rw [presentCounts, List.filter_eq_nil_iff]
  refine forall₂_congr fun name _ => ?_
  rw [← value_eq_empty_iff, decide_eq_true_eq, not_not]

end Lines

/-! ### Without the variable for the report -/

section Untold

variable (bindings : Variables)

def withoutReport : Variables :=
  bindings.erase ReservedName.testReportUrl.text

theorem value_withoutReport_of_ne {name : ReservedName} (other : name ≠ .testReportUrl) :
    (withoutReport bindings).value name.text = bindings.value name.text := by
  have different : name.text ≠ ReservedName.testReportUrl.text :=
    fun same => other (ReservedName.text_injective same)
  rw [Variables.value, withoutReport, Dictionary.get?_erase_of_ne different, Variables.value]

theorem ne_testReportUrl_of_mem_countNames {name : ReservedName} (member : name ∈ countNames) :
    name ≠ .testReportUrl := by
  revert member name
  decide

theorem countLines_withoutReport :
    (presentCounts (withoutReport bindings)).map (countLine (withoutReport bindings)) =
      (presentCounts bindings).map (countLine bindings) := by
  have present : presentCounts (withoutReport bindings) = presentCounts bindings := by
    refine List.filter_congr fun name member => ?_
    rw [value_withoutReport_of_ne bindings (ne_testReportUrl_of_mem_countNames member)]
  rw [present]
  refine List.map_congr_left fun name member => ?_
  have counted : name ∈ countNames := (List.mem_filter.mp member).1
  rw [countLine, value_withoutReport_of_ne bindings (ne_testReportUrl_of_mem_countNames counted),
    countLine]

theorem reportLine_of_untold {run : Option Run}
    (untold : bindings.value ReservedName.testReportUrl.text = "") :
    reportLine run bindings =
      .link "Test report" "here" (bindings.value ReservedName.url.text ++ reportPath run) := by
  rw [reportLine, untold, if_neg (not_not.mpr rfl)]
  rfl

variable {bindings} {run : Run} {server : Option String} {now : Instant}

/-- What the variables say about the report is what the builder makes of the address and the path
by itself. -/
theorem reportLine_of_telling (telling : bindings.TellAbout run server now) :
    reportLine (some run) bindings =
      .link "Test report" "here" (absoluteUrl server run.url ++ reportPath (some run)) := by
  have address : bindings.value ReservedName.url.text = absoluteUrl server run.url :=
    telling.value_of_mem (by simp [Run.ownVariables])
  cases tested : run.tests with
  | none =>
      have absent : bindings.read? .testReportUrl = none := by
        refine telling.read?_eq_none rfl fun value member => ?_
        have listed := (Run.mem_ownVariables_iff_of_isAboutTests rfl).mp member
        rw [Run.testVariables, tested] at listed
        cases listed
      rw [reportLine_of_untold bindings ((value_eq_empty_iff bindings _).mpr (Or.inl absent)),
        address]
  | some tests =>
      rw [← link_reportUrl, reportUrl_of_tests telling tested, reportPath, Option.bind_some, tested]

theorem reportLine_withoutReport (telling : bindings.TellAbout run server now) :
    reportLine (some run) (withoutReport bindings) = reportLine (some run) bindings := by
  have gone : (withoutReport bindings).value ReservedName.testReportUrl.text = "" := by
    rw [Variables.value, withoutReport, Dictionary.get?_erase_self]
    rfl
  have address : bindings.value ReservedName.url.text = absoluteUrl server run.url :=
    telling.value_of_mem (by simp [Run.ownVariables])
  rw [reportLine_of_untold _ gone, value_withoutReport_of_ne bindings (by decide), address,
    reportLine_of_telling telling]

theorem attributesFor_withoutReport (telling : bindings.TellAbout run server now) :
    attributesFor (some run) (withoutReport bindings) = attributesFor (some run) bindings := by
  have present : presentCounts (withoutReport bindings) = [] ↔ presentCounts bindings = [] := by
    rw [← List.map_eq_nil_iff (f := countLine _), countLines_withoutReport, List.map_eq_nil_iff]
  simp only [attributesFor_eq, countLines_withoutReport, reportLine_withoutReport telling, present]

end Untold

end Card

/-- A builder looks at the lines of a card, at the address and at the names, and at nothing else. -/
theorem CardBuilder.build_congr {run : Option Run} {bindings others : Variables}
    (attributes : Card.attributesFor run bindings = Card.attributesFor run others)
    (value : ∀ name ∈ [ReservedName.url, .jobDisplayName, .buildDisplayName],
      bindings.value name.text = others.value name.text)
    (id message : String) (icon : Option String) :
    testSummary.build id run bindings message icon =
      testSummary.build id run others message icon := by
  have address := value .url (by decide)
  have title : Card.titleFor bindings = Card.titleFor others := by
    rw [Card.titleFor, value .jobDisplayName (by decide), value .buildDisplayName (by decide),
      Card.titleFor]
  unfold build
  rw [attributes, address, title]

theorem CardBuilder.map_attributes_build (id : String) (run : Option Run) (bindings : Variables)
    (message : String) (icon : Option String) :
    (testSummary.build id run bindings message icon).map Card.attributes =
      if Card.presentCounts bindings = [] then none
      else some ((Card.presentCounts bindings).map (Card.countLine bindings) ++
        [Card.reportLine run bindings]) := by
  unfold build
  rw [Card.attributesFor_eq]
  cases Card.presentCounts bindings with
  | nil => rfl
  | cons name names => rfl

/-- Whatever the variables are, a card has a line for each count that is present and not empty, in
one order, and then a link to the report; without such a count there is no card. Where no variable
names the report, the link is made of the address and the path of the report, and for the variables
that were collected from a run this makes no difference. -/
theorem cards_follow_the_variables (bindings : Variables) (run : Option Run) (id message : String)
    (icon : Option String) :
    let build := CardBuilder.testSummary.build id
    (build run bindings message icon = none ↔
        ∀ name ∈ Card.countNames,
          bindings.read? name = none ∨ bindings.read? name = some "") ∧
      ((build run bindings message icon).map Card.attributes =
        if Card.presentCounts bindings = [] then none
        else some ((Card.presentCounts bindings).map (Card.countLine bindings) ++
          [Card.reportLine run bindings])) ∧
      ∀ (run : Run) (server : Option String) (now : Instant),
        let collected := run.allVariables server now
        build (some run) (Card.withoutReport collected) message icon =
            build (some run) collected message icon ∧
          (build (some run) collected message icon).map (fun card => card.attributes.getLast?) =
            run.tests.map fun tests =>
              some (.link "Test report" "here"
                (absoluteUrl server run.url ++ tests.reportPath)) := by
  intro build
  refine ⟨?_, CardBuilder.map_attributes_build id run bindings message icon, ?_⟩
  · rw [← Card.presentCounts_eq_nil_iff, ← Option.map_eq_none_iff (f := Card.attributes),
      CardBuilder.map_attributes_build]
    split
    next absent => simp [absent]
    next present => simp [present]
  · intro run server now collected
    have telling : collected.TellAbout run server now := Variables.tellAbout_allVariables _ _ _
    constructor
    · refine CardBuilder.build_congr (Card.attributesFor_withoutReport telling) ?_ id message icon
      intro name member
      refine Card.value_withoutReport_of_ne collected ?_
      revert member
      cases name <;> decide
    · change (CardBuilder.testSummary.build id (some run) collected message icon).map _ = _
      rw [CardBuilder.build_of_telling telling, Option.map_map]
      rfl

end BuildNotices
