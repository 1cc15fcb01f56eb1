import BuildNotices.Proofs.Notification.Summary
import Mathlib.Algebra.GroupWithZero.Nat
/-!
What the variables of a run say about its changes.

Two summaries are kept, a strict one that wants the files of every change to be known and a lenient
one that does not, and beside each the text that falls back on the cause of the run. They differ
only where the files of a change are not known.
-/

namespace BuildNotices

open Text

/-! ### Counting files -/

/-- The number of files that some changes touched, however large it is. -/
def fileTotal (changes : List Change) : Nat :=
  (changes.map fun change => change.fileCount.toNat).sum

theorem fileTotal_cons (change : Change) (rest : List Change) :
    fileTotal (change :: rest) = change.fileCount.toNat + fileTotal rest := by
  rw [fileTotal, List.map_cons, List.sum_cons, fileTotal]

theorem toNat_foldl_fileCount (changes : List Change) (count : UInt64) :
    (changes.foldl (fun count change => count + change.fileCount) count).toNat =
      (count.toNat + fileTotal changes) % 2 ^ 64 := by
  induction changes generalizing count with
  | nil => exact (Nat.mod_eq_of_lt count.toNat_lt).symm
  | cons change rest ih =>
      rw [List.foldl_cons, ih, fileTotal_cons, UInt64.toNat_add]
      omega

/-- The count is the total as long as this has 64 bits. -/
theorem toNat_filesChanged (changes : List Change) :
    (filesChanged changes).toNat = fileTotal changes % 2 ^ 64 := by
  rw [filesChanged, toNat_foldl_fileCount, UInt64.toNat_zero, Nat.zero_add]

theorem filesChanged_eq_zero_iff {changes : List Change}
    (bounded : fileTotal changes < 2 ^ 64) : filesChanged changes = 0 ↔ fileTotal changes = 0 := by
  rw [← UInt64.toNat_inj, toNat_filesChanged, Nat.mod_eq_of_lt bounded, UInt64.toNat_zero]

theorem changeSummary_ne_noChanges (changes : List Change) : changeSummary changes ≠ noChanges := by
  have first : (changeSummary changes).toList.head? = some 'S' := by
    unfold changeSummary
    simp only [String.toList_append, List.append_assoc]
    rfl
  intro same
  rw [same] at first
  exact absurd first (by decide)

/-! ### Reports -/

namespace ChangeReport

def isIncomplete : ChangeReport → Bool
  | .incomplete _ => true
  | _ => false

def summary? : ChangeReport → Option String
  | .absent => none
  | .incomplete summary => some summary
  | .complete summary _ => summary

end ChangeReport

/-- The source control lists the files of every change of a run. -/
def Run.KnowsFiles (run : Run) : Prop :=
  ∀ changes, run.changes = some changes → ∀ change ∈ changes, change.affectedFiles ≠ .unsupported

/-- A run has no change set, or one in which the files of every change are known to be none. -/
def Run.ChangedNothing (run : Run) : Prop :=
  ∀ changes, run.changes = some changes →
    (∀ change ∈ changes, change.affectedFiles ≠ .unsupported) ∧ fileTotal changes = 0

theorem all_isSupported_iff {changes : List Change} :
    changes.all Change.isSupported = true ↔
      ∀ change ∈ changes, change.affectedFiles ≠ .unsupported := by
  simp only [List.all_eq_true, Change.isSupported, ne_eq, decide_eq_true_eq]

namespace Run

theorem isIncomplete_changeReport_iff (run : Run) :
    run.changeReport.isIncomplete = true ↔ ¬ run.KnowsFiles := by
  unfold changeReport KnowsFiles
  cases run.changes with
  | none => simp [ChangeReport.isIncomplete]
  | some changes =>
      simp only [Option.some.injEq, forall_eq', ← all_isSupported_iff]
      split
      next known => simp [ChangeReport.isIncomplete, known]
      next unknown => simp [ChangeReport.isIncomplete, unknown]

theorem summary?_changeReport {run : Run} {changes : List Change}
    (given : run.changes = some changes) :
    run.changeReport.summary? =
      if changes.all Change.isSupported = true ∧ filesChanged changes = 0 then none
      else some (changeSummary changes) := by
  unfold changeReport
  rw [given]
  by_cases known : changes.all Change.isSupported = true
  · by_cases untouched : filesChanged changes = 0
    · simp [known, untouched, ChangeReport.summary?]
    · simp [known, untouched, ChangeReport.summary?]
  · simp [known, ChangeReport.summary?]

theorem summary?_changeReport_ne_noChanges (run : Run) :
    run.changeReport.summary? ≠ some noChanges := by
  cases given : run.changes with
  | none => simp [changeReport, given, ChangeReport.summary?]
  | some changes =>
      rw [summary?_changeReport given]
      split
      · exact (Option.some_ne_none noChanges).symm
      · exact mt Option.some.inj (changeSummary_ne_noChanges changes)

theorem getD_summary?_eq_noChanges_iff (run : Run) :
    run.changeReport.summary?.getD noChanges = noChanges ↔ run.changeReport.summary? = none := by
  have distinct := run.summary?_changeReport_ne_noChanges
  cases summed : run.changeReport.summary? with
  | none => exact iff_of_true rfl rfl
  | some text =>
      rw [summed] at distinct
      exact iff_of_false (mt (congrArg some) distinct) (Option.some_ne_none text)

/-- What stands in the place of a missing summary also stands in the place of the one that tells of
no changes. -/
theorem getD_summary? (run : Run) (cause : String) :
    run.changeReport.summary?.getD cause =
      if run.changeReport.summary?.getD noChanges ≠ noChanges then
        run.changeReport.summary?.getD noChanges
      else cause := by
  simp only [ne_eq, getD_summary?_eq_noChanges_iff]
  cases run.changeReport.summary? with
  | none => rfl
  | some text => rfl

theorem summary?_changeReport_eq_none_iff {run : Run}
    (bounded : ∀ changes, run.changes = some changes → fileTotal changes < 2 ^ 64) :
    run.changeReport.summary? = none ↔ run.ChangedNothing := by
  unfold ChangedNothing
  cases given : run.changes with
  | none => simp [changeReport, given, ChangeReport.summary?]
  | some changes =>
      rw [summary?_changeReport given]
      simp only [filesChanged_eq_zero_iff (bounded changes given), all_isSupported_iff,
        ite_eq_left_iff, Option.some_ne_none, imp_false, not_not, Option.some.injEq, forall_eq']

end Run

/-! ### Variables about changes -/

/-- The names that have a value only if the files of every change are known. -/
def ReservedName.needsFiles : ReservedName → Bool
  | .changes => true
  | .commitMessage => true
  | .commitMessageText => true
  | _ => false

theorem ReservedName.not_dependsOnCategory_of_needsFiles {name : ReservedName}
    (needs : name.needsFiles = true) : name.dependsOnCategory = false := by
  cases name <;> first | rfl | cases needs

def Run.ownNames (run : Run) (server : Option String) (now : Instant) : List ReservedName :=
  (run.ownVariables server now).map Prod.fst

namespace Run

theorem mem_ownNames_of_needsFiles {name : ReservedName} (needs : name.needsFiles = true)
    (run : Run) (server : Option String) (now : Instant) :
    name ∈ run.ownNames server now ↔ run.changeReport.isIncomplete = false := by
  unfold ownNames ownVariables testVariables changeVariables
  cases name with
  | changes | commitMessage | commitMessageText =>
      cases run.tests <;> cases run.changeReport <;> simp [ChangeReport.isIncomplete]
  | _ => cases needs

theorem mem_ownNames_of_isAboutTests {name : ReservedName} (about : name.isAboutTests = true)
    (run : Run) (server : Option String) (now : Instant) :
    name ∈ run.ownNames server now ↔ run.tests.isSome = true := by
  unfold ownNames ownVariables testVariables changeVariables
  cases name with
  | testCount | failedTestCount | skippedTestCount | successTestCount | testReportUrl =>
      cases run.tests <;> cases run.changeReport <;> simp
  | _ => cases about

end Run

namespace Variables.TellAbout

variable {bindings : Variables} {run : Run} {server : Option String} {now : Instant}

theorem read?_cause (telling : bindings.TellAbout run server now) :
    bindings.read? .cause = some (run.cause.getD "") :=
  telling.read?_of_mem (by simp [Run.ownVariables])

theorem read?_hipchatChanges (telling : bindings.TellAbout run server now) :
    bindings.read? .hipchatChanges = some (run.changeReport.summary?.getD noChanges) := by
  apply telling.read?_of_mem
  cases report : run.changeReport <;>
    simp [Run.ownVariables, Run.changeVariables, report, ChangeReport.summary?]

theorem read?_hipchatChangesOrCause (telling : bindings.TellAbout run server now) :
    bindings.read? .hipchatChangesOrCause =
      some (run.changeReport.summary?.getD (run.cause.getD "")) := by
  apply telling.read?_of_mem
  cases report : run.changeReport <;>
    simp [Run.ownVariables, Run.changeVariables, report, ChangeReport.summary?]

theorem read?_changesOrCause (telling : bindings.TellAbout run server now) :
    bindings.read? .changesOrCause =
      some (if run.changeReport.isIncomplete = true then run.cause.getD ""
        else run.changeReport.summary?.getD (run.cause.getD "")) := by
  apply telling.read?_of_mem
  cases report : run.changeReport <;>
    simp [Run.ownVariables, Run.changeVariables, report, ChangeReport.summary?,
      ChangeReport.isIncomplete]

theorem isSome_read?_iff (telling : bindings.TellAbout run server now) {name : ReservedName}
    (independent : name.dependsOnCategory = false) :
    (bindings.read? name).isSome = true ↔ name ∈ run.ownNames server now := by
  rw [Option.isSome_iff_exists, Run.ownNames, List.mem_map]
  constructor
  · rintro ⟨value, found⟩
    exact ⟨(name, value), (telling name value independent).mp found, rfl⟩
  · rintro ⟨⟨_, value⟩, member, rfl⟩
    exact ⟨value, telling.read?_of_mem member⟩

/-- The strict summary and both forms of the commit message are given together. -/
theorem isSome_read?_of_needsFiles (telling : bindings.TellAbout run server now)
    {name : ReservedName} (needs : name.needsFiles = true) :
    (bindings.read? name).isSome = true ↔ run.changeReport.isIncomplete = false :=
  (telling.isSome_read?_iff (ReservedName.not_dependsOnCategory_of_needsFiles needs)).trans
    (Run.mem_ownNames_of_needsFiles needs run server now)

theorem read?_eq_none_of_isIncomplete (telling : bindings.TellAbout run server now)
    {name : ReservedName} (needs : name.needsFiles = true)
    (incomplete : run.changeReport.isIncomplete = true) : bindings.read? name = none := by
  rw [← Option.not_isSome_iff_eq_none, telling.isSome_read?_of_needsFiles needs, incomplete]
  exact Bool.noConfusion

theorem isSome_read?_of_isAboutTests (telling : bindings.TellAbout run server now)
    {name : ReservedName} (about : name.isAboutTests = true) :
    (bindings.read? name).isSome = true ↔ run.tests.isSome = true :=
  (telling.isSome_read?_iff (ReservedName.not_dependsOnCategory_of_isAboutTests about)).trans
    (Run.mem_ownNames_of_isAboutTests about run server now)

theorem read?_changes (telling : bindings.TellAbout run server now) :
    bindings.read? .changes =
      if run.changeReport.isIncomplete = true then none
      else some (run.changeReport.summary?.getD noChanges) := by
  cases report : run.changeReport with
  | incomplete summary =>
      exact telling.read?_eq_none_of_isIncomplete rfl (by rw [report]; rfl)
  | absent =>
      exact telling.read?_of_mem (by simp [Run.ownVariables, Run.changeVariables, report,
        ChangeReport.summary?])
  | complete summary message =>
      exact telling.read?_of_mem (by simp [Run.ownVariables, Run.changeVariables, report,
        ChangeReport.summary?])

end Variables.TellAbout

/-! ### Summaries and causes -/

/-- The summaries of a run agree with each other and with its cause. The strict summary and the
commit message are given if the files of every change are known, and the strict summary is then the
lenient one. Each summary gives way to the cause where nothing changed, the strict one also where it
is missing; the lenient one is the placeholder only where nothing changed. The variables about test
results are given together. -/
theorem change_variables_agree (run : Run) (server : Option String) (now : Instant)
    (bounded : ∀ changes, run.changes = some changes → fileTotal changes < 2 ^ 64) :
    let bindings := run.allVariables server now
    (∀ name ∈ [ReservedName.changes, .commitMessage, .commitMessageText],
      bindings.contains name.text = true ↔ run.KnowsFiles) ∧
    bindings.read? .cause = some (run.cause.getD "") ∧
    bindings.read? .changesOrCause =
      (if bindings.read? .changes ≠ none ∧ bindings.read? .changes ≠ some noChanges then
        bindings.read? .changes
      else bindings.read? .cause) ∧
    (∃ summary, bindings.read? .hipchatChanges = some summary ∧
      (summary = noChanges ↔ run.ChangedNothing) ∧
      bindings.read? .hipchatChangesOrCause =
        (if summary ≠ noChanges then some summary else bindings.read? .cause) ∧
      (bindings.read? .changes ≠ none → bindings.read? .changes = some summary)) ∧
    (∀ name ∈ [ReservedName.testCount, .failedTestCount, .skippedTestCount, .successTestCount,
        .testReportUrl],
      bindings.contains name.text = true ↔ run.tests.isSome = true) := by
  intro bindings
  have telling : bindings.TellAbout run server now :=
    Variables.tellAbout_allVariables run server now
  have contained (name : ReservedName) :
      bindings.contains name.text = (bindings.read? name).isSome :=
    Dictionary.contains_eq_isSome bindings name.text
  refine ⟨?_, telling.read?_cause, ?_, ?_, ?_⟩
  · intro name member
    have needs : name.needsFiles = true := by
      revert name
      decide
    rw [contained, telling.isSome_read?_of_needsFiles needs, ← Bool.not_eq_true,
      run.isIncomplete_changeReport_iff, not_not]
  · rw [telling.read?_changesOrCause, telling.read?_changes, telling.read?_cause,
      run.getD_summary?]
    by_cases incomplete : run.changeReport.isIncomplete = true
    · simp [incomplete]
    · simp [incomplete, apply_ite some]
  · refine ⟨_, telling.read?_hipchatChanges, ?_, ?_, ?_⟩
    · rw [run.getD_summary?_eq_noChanges_iff, Run.summary?_changeReport_eq_none_iff bounded]
    · rw [telling.read?_hipchatChangesOrCause, telling.read?_cause, run.getD_summary?,
        apply_ite some]
    · rw [telling.read?_changes]
      by_cases incomplete : run.changeReport.isIncomplete = true
      · simp [incomplete]
      · simp [incomplete]
  · intro name member
    have about : name.isAboutTests = true := by
      revert name
      decide
    rw [contained, telling.isSome_read?_of_isAboutTests about]

/-- A run with two changes, of which the files of one are not known. -/
def halfKnownRun : Run where
  changes := some [ { author := some "carol", affectedFiles := .unsupported },
    { author := some "alice", affectedFiles := .found 3 } ]
  tests := some { total := 4, failed := 1 }

theorem change_variables_of_half_known_run :
    (∀ changes, halfKnownRun.changes = some changes → fileTotal changes < 2 ^ 64) ∧
      let bindings := halfKnownRun.allVariables none default
      let summary := "Started by changes from alice, carol (3 file(s) changed)"
      ¬ halfKnownRun.KnowsFiles ∧ bindings.contains "CHANGES" = false ∧
        bindings.contains "COMMIT_MESSAGE" = false ∧
        bindings.read? .changesOrCause = bindings.read? .cause ∧
        bindings.read? .hipchatChanges = some summary ∧ ¬ halfKnownRun.ChangedNothing ∧
        bindings.read? .hipchatChangesOrCause = some summary ∧
        bindings.contains "TEST_REPORT_URL" = true := by
  have bounded : ∀ changes, halfKnownRun.changes = some changes → fileTotal changes < 2 ^ 64 := by
    rintro changes ⟨⟩
    decide
  refine ⟨bounded, ?_⟩
  intro bindings summary
  obtain ⟨files, _, strict, ⟨text, lenient, placeholder, fallback, _⟩, tests⟩ :=
    change_variables_agree halfKnownRun none default bounded
  have unknown : ¬ halfKnownRun.KnowsFiles := fun known =>
    known _ rfl _ List.mem_cons_self rfl
  have missing (name : ReservedName)
      (listed : name ∈ [ReservedName.changes, .commitMessage, .commitMessageText]) :
      bindings.contains name.text = false :=
    Bool.eq_false_iff.mpr (mt (files name listed).mp unknown)
  have absent : bindings.read? .changes = none := by
    have silent := missing .changes (by decide)
    rw [Dictionary.contains_eq_isSome] at silent
    exact Option.isNone_iff_eq_none.mp (Option.isSome_eq_false_iff.mp silent)
  have given : bindings.read? .hipchatChanges = some summary := by decide +kernel
  have same : text = summary := Option.some.inj (lenient.symm.trans given)
  have apart : summary ≠ noChanges := by decide
  subst same
  refine ⟨unknown, missing .changes (by decide), missing .commitMessage (by decide), ?_, given,
    mt placeholder.mpr apart, ?_, (tests .testReportUrl (by decide)).mpr rfl⟩
  · rw [strict, if_neg fun both => both.1 absent]
  · rw [fallback, if_pos apart]

end BuildNotices
