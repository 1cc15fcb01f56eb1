import BuildNotices.Proofs.Variables.Changes
import Mathlib.Algebra.BigOperators.Group.List.Basic
import Mathlib.Data.List.Sort
import Mathlib.Data.String.Basic
/-!
Summaries of changes in another order or in groups.

A summary only tells the set of authors, in code point order, and the number of files, and which
summaries are given only depends on whether the files of every change are known. So change sets
that agree in these three are summed up alike.
-/

namespace BuildNotices

open Text

/-! ### Authors -/

theorem Text.Dictionary.mem_entries_iff {α : Type} {dictionary : Dictionary α} {name : String}
    {value : α} : (name, value) ∈ dictionary.entries ↔ dictionary.get? name = some value := by
  rw [← Dictionary.lastUnder?_entries, lastUnder?_eq_some_iff dictionary.names_nodup]

/-- The authors of a summary are listed in strictly increasing order. -/
theorem pairwise_authorsOf (changes : List Change) : (authorsOf changes).Pairwise (· < ·) :=
  List.pairwise_map.mpr (Dictionary.ordered _)

/-- The authors of a summary are those of the changes, with a stand-in where one is missing. -/
theorem mem_authorsOf_iff {changes : List Change} {author : String} :
    author ∈ authorsOf changes ↔ ∃ change ∈ changes, change.authorName = author := by
  have listed : author ∈ authorsOf changes ↔
      lastUnder? author (changes.map fun change => (change.authorName, ())) ≠ none := by
    rw [authorsOf, List.mem_map, ← Dictionary.get?_ofList, Option.ne_none_iff_exists']
    simp only [← Dictionary.mem_entries_iff, Prod.exists, exists_and_right, exists_eq_right]
  rw [listed, ne_eq, lastUnder?_eq_none_iff]
  simp

theorem authorsOf_congr {first second : List Change}
    (same : ∀ author, (∃ change ∈ first, change.authorName = author) ↔
      ∃ change ∈ second, change.authorName = author) : authorsOf first = authorsOf second := by
  refine (pairwise_authorsOf first).eq_of_mem_iff (pairwise_authorsOf second) ?_
  intro author
  rw [mem_authorsOf_iff, mem_authorsOf_iff]
  exact same author

/-! ### Change sets that are summed up alike -/

theorem fileTotal_append (first second : List Change) :
    fileTotal (first ++ second) = fileTotal first + fileTotal second := by
  rw [fileTotal, List.map_append, List.sum_append, fileTotal, fileTotal]

/-- Nothing in a summary tells two change sets apart. -/
structure SummedAlike (first second : List Change) : Prop where
  known : (∀ change ∈ first, change.affectedFiles ≠ .unsupported) ↔
    ∀ change ∈ second, change.affectedFiles ≠ .unsupported
  authors : ∀ author, (∃ change ∈ first, change.authorName = author) ↔
    ∃ change ∈ second, change.authorName = author
  files : fileTotal first = fileTotal second

/-- One change in place of several ones of the same author, with the files of them all. -/
structure Change.StandsFor (merged : Change) (group : List Change) : Prop where
  nonempty : group ≠ []
  supported : ∀ change ∈ group, change.affectedFiles ≠ .unsupported
  author : ∀ change ∈ group, change.authorName = merged.authorName
  counted : ∃ count, merged.affectedFiles = .found count ∧ count.toNat = fileTotal group

namespace SummedAlike

theorem trans {first second third : List Change} (before : SummedAlike first second)
    (after : SummedAlike second third) : SummedAlike first third where
  known := before.known.trans after.known
  authors author := (before.authors author).trans (after.authors author)
  files := before.files.trans after.files

theorem of_perm {first second : List Change} (reordered : first.Perm second) :
    SummedAlike first second where
  known := ⟨fun every change member => every change (reordered.mem_iff.mpr member),
    fun every change member => every change (reordered.mem_iff.mp member)⟩
  authors _ := exists_congr fun _ => and_congr_left' reordered.mem_iff
  files := (reordered.map fun change : Change => change.fileCount.toNat).sum_eq

theorem of_standsFor {merged : Change} {group : List Change} (stands : merged.StandsFor group)
    (rest : List Change) : SummedAlike (merged :: rest) (group ++ rest) where
  known := by
    obtain ⟨count, found, _⟩ := stands.counted
    rw [List.forall_mem_cons, List.forall_mem_append, found]
    exact and_congr_left' (iff_of_true (by simp) stands.supported)
  authors author := by
    obtain ⟨change, member⟩ := List.exists_mem_of_ne_nil group stands.nonempty
    have written : (∃ change ∈ group, change.authorName = author) ↔
        merged.authorName = author := by
      constructor
      · rintro ⟨other, inside, rfl⟩
        exact (stands.author other inside).symm
      · rintro rfl
        exact ⟨change, member, stands.author change member⟩
    simp only [List.mem_cons, List.mem_append, or_and_right, exists_or, exists_eq_left, written]
  files := by
    obtain ⟨count, found, total⟩ := stands.counted
    have single : merged.fileCount = count := by rw [Change.fileCount, found]
    rw [fileTotal_cons, fileTotal_append, single, total]

theorem changeSummary_eq {first second : List Change} (alike : SummedAlike first second) :
    filesChanged first = filesChanged second ∧ changeSummary first = changeSummary second := by
  have counts : filesChanged first = filesChanged second := by
    rw [← UInt64.toNat_inj, toNat_filesChanged, toNat_filesChanged, alike.files]
  refine ⟨counts, ?_⟩
  unfold changeSummary
  rw [authorsOf_congr alike.authors, counts]

end SummedAlike

/-! ### Summaries -/

def summaryNames : List ReservedName :=
  [.changes, .changesOrCause, .hipchatChanges, .hipchatChangesOrCause]

def Run.variablesWith (run : Run) (server : Option String) (now : Instant)
    (changes : List Change) : Variables :=
  ({ run with changes := some changes } : Run).allVariables server now

def summaryText (authors : List String) (files : Nat) : String :=
  "Started by changes from " ++ ", ".intercalate authors ++ " (" ++ toString files ++
    " file(s) changed)"

theorem changeSummary_eq_summaryText {changes : List Change}
    (bounded : fileTotal changes < 2 ^ 64) :
    changeSummary changes = summaryText (authorsOf changes) (fileTotal changes) := by
  unfold changeSummary summaryText
  rw [toNat_filesChanged, Nat.mod_eq_of_lt bounded]

theorem Run.knowsFiles_iff {run : Run} {changes : List Change}
    (given : run.changes = some changes) :
    run.KnowsFiles ↔ ∀ change ∈ changes, change.affectedFiles ≠ .unsupported := by
  simp only [KnowsFiles, given, Option.some.injEq, forall_eq']

/-- Change sets that are summed up alike give the same summaries. -/
theorem SummedAlike.read?_eq {first second : List Change} (alike : SummedAlike first second)
    (run : Run) (server : Option String) (now : Instant) {name : ReservedName}
    (listed : name ∈ summaryNames) :
    (run.variablesWith server now first).read? name =
      (run.variablesWith server now second).read? name := by
  have firstTelling :=
    Variables.tellAbout_allVariables { run with changes := some first } server now
  have secondTelling :=
    Variables.tellAbout_allVariables { run with changes := some second } server now
  have summaries : ({ run with changes := some first } : Run).changeReport.summary? =
      ({ run with changes := some second } : Run).changeReport.summary? := by
    obtain ⟨counts, summary⟩ := alike.changeSummary_eq
    have supported :
        first.all Change.isSupported = true ↔ second.all Change.isSupported = true := by
      rw [all_isSupported_iff, all_isSupported_iff, alike.known]
    rw [Run.summary?_changeReport rfl, Run.summary?_changeReport rfl, counts, summary]
    simp only [supported]
  have completeness : ({ run with changes := some first } : Run).changeReport.isIncomplete =
      ({ run with changes := some second } : Run).changeReport.isIncomplete := by
    rw [Bool.eq_iff_iff, Run.isIncomplete_changeReport_iff, Run.isIncomplete_changeReport_iff,
      Run.knowsFiles_iff rfl, Run.knowsFiles_iff rfl, alike.known]
  unfold Run.variablesWith
  simp only [summaryNames, List.mem_cons, List.not_mem_nil, or_false] at listed
  rcases listed with rfl | rfl | rfl | rfl
  · rw [firstTelling.read?_changes, secondTelling.read?_changes, summaries, completeness]
  · rw [firstTelling.read?_changesOrCause, secondTelling.read?_changesOrCause, summaries,
      completeness]
  · rw [firstTelling.read?_hipchatChanges, secondTelling.read?_hipchatChanges, summaries]
  · rw [firstTelling.read?_hipchatChangesOrCause, secondTelling.read?_hipchatChangesOrCause,
      summaries]

/-- What is given under the names of summaries: a text about all authors and files, or what stands
in its place where no file was touched or where the files are not all known. -/
structure Variables.SumUp (bindings : Variables) (known : Prop) [Decidable known] (files : Nat)
    (summary cause : String) : Prop where
  changes : bindings.read? .changes =
    if known then some (if files = 0 then noChanges else summary) else none
  changesOrCause : bindings.read? .changesOrCause =
    some (if known ∧ files ≠ 0 then summary else cause)
  hipchatChanges : bindings.read? .hipchatChanges =
    some (if known ∧ files = 0 then noChanges else summary)
  hipchatChangesOrCause : bindings.read? .hipchatChangesOrCause =
    some (if known ∧ files = 0 then cause else summary)

theorem Variables.TellAbout.sumUp {bindings : Variables} {run : Run} {server : Option String}
    {now : Instant} (telling : bindings.TellAbout run server now) {known : Prop}
    [Decidable known] {files : Nat} {summary : String}
    (incomplete : run.changeReport.isIncomplete = true ↔ ¬ known)
    (summed : run.changeReport.summary? = if known ∧ files = 0 then none else some summary) :
    bindings.SumUp known files summary (run.cause.getD "") := by
  by_cases every : known
  · by_cases untouched : files = 0
    · constructor
      · simp [telling.read?_changes, summed, incomplete, every, untouched]
      · simp [telling.read?_changesOrCause, summed, incomplete, every, untouched]
      · simp [telling.read?_hipchatChanges, summed, every, untouched]
      · simp [telling.read?_hipchatChangesOrCause, summed, every, untouched]
    · constructor
      · simp [telling.read?_changes, summed, incomplete, every, untouched]
      · simp [telling.read?_changesOrCause, summed, incomplete, every, untouched]
      · simp [telling.read?_hipchatChanges, summed, untouched]
      · simp [telling.read?_hipchatChangesOrCause, summed, untouched]
  · constructor
    · simp [telling.read?_changes, incomplete, every]
    · simp [telling.read?_changesOrCause, incomplete, every]
    · simp [telling.read?_hipchatChanges, summed, every]
    · simp [telling.read?_hipchatChangesOrCause, summed, every]

theorem Run.sumUp_variablesWith (run : Run) (server : Option String) (now : Instant)
    {changes : List Change} (bounded : fileTotal changes < 2 ^ 64) :
    Variables.SumUp (run.variablesWith server now changes)
      (∀ change ∈ changes, change.affectedFiles ≠ .unsupported) (fileTotal changes)
      (summaryText (authorsOf changes) (fileTotal changes)) (run.cause.getD "") := by
  have telling := Variables.tellAbout_allVariables { run with changes := some changes } server now
  refine telling.sumUp ?_ ?_
  · rw [isIncomplete_changeReport_iff, knowsFiles_iff rfl]
  · rw [summary?_changeReport rfl, changeSummary_eq_summaryText bounded]
    simp only [filesChanged_eq_zero_iff bounded, all_isSupported_iff]

/-- Summaries do not depend on the order of the changes, nor on whether some changes of one author
are given as one. They list the set of authors in code point order and the number of all files. -/
theorem change_summary_ignores_order (run : Run) (server : Option String) (now : Instant)
    {changes : List Change} (bounded : fileTotal changes < 2 ^ 64) :
    let bindings := run.variablesWith server now
    (∀ other : List Change, other.Perm changes → ∀ name ∈ summaryNames,
      (bindings other).read? name = (bindings changes).read? name) ∧
    (∀ (group rest other : List Change) (merged : Change), changes.Perm (group ++ rest) →
      merged.StandsFor group → other.Perm (merged :: rest) → ∀ name ∈ summaryNames,
        (bindings other).read? name = (bindings changes).read? name) ∧
    ∃ authors : List String, authors.Pairwise (· < ·) ∧
      (∀ author, author ∈ authors ↔
        ∃ change ∈ changes, change.author.getD "unknown" = author) ∧
      Variables.SumUp (bindings changes)
        (∀ change ∈ changes, change.affectedFiles ≠ .unsupported) (fileTotal changes)
        (summaryText authors (fileTotal changes)) (run.cause.getD "") := by
  refine ⟨?_, ?_, authorsOf changes, pairwise_authorsOf changes, fun author => mem_authorsOf_iff,
    run.sumUp_variablesWith server now bounded⟩
  · intro other reordered name listed
    exact (SummedAlike.of_perm reordered).read?_eq run server now listed
  · intro group rest other merged split stands reordered name listed
    have alike : SummedAlike other changes :=
      ((SummedAlike.of_perm reordered).trans (SummedAlike.of_standsFor stands rest)).trans
        (SummedAlike.of_perm split.symm)
    exact alike.read?_eq run server now listed

/-- Four changes, of which two are of one author and one is of nobody known. -/
def sharedWork : List Change :=
  [ { author := some "bob", affectedFiles := .found 2 }, { affectedFiles := .found 1 },
    { author := some "alice", affectedFiles := .found 1 },
    { author := some "bob", affectedFiles := .found 4 } ]

theorem change_summary_of_shared_work :
    fileTotal sharedWork < 2 ^ 64 ∧
      let bindings := (default : Run).variablesWith none default
      let group : List Change :=
        [ { author := some "bob", affectedFiles := .found 2 },
          { author := some "bob", affectedFiles := .found 4 } ]
      let rest : List Change :=
        [{ affectedFiles := .found 1 }, { author := some "alice", affectedFiles := .found 1 }]
      let merged : Change := { author := some "bob", affectedFiles := .found 6 }
      merged.StandsFor group ∧
        (bindings sharedWork.reverse).read? .changes = (bindings sharedWork).read? .changes ∧
        (bindings (rest ++ [merged])).read? .changes = (bindings sharedWork).read? .changes ∧
        ∃ authors, authors.Pairwise (· < ·) ∧
          (bindings sharedWork).read? .changes = some (summaryText authors 8) ∧
          summaryText authors 8 =
            "Started by changes from alice, bob, unknown (8 file(s) changed)" := by
  have bounded : fileTotal sharedWork < 2 ^ 64 := by decide
  refine ⟨bounded, ?_⟩
  intro bindings group rest merged
  obtain ⟨order, grouping, authors, increasing, _, given⟩ :=
    change_summary_ignores_order default none default bounded
  have stands : merged.StandsFor group :=
    { nonempty := by decide
      supported := by decide
      author := by decide
      counted := ⟨6, rfl, by decide⟩ }
  have summed : (bindings sharedWork).read? .changes = some (summaryText authors 8) := given.changes
  have shown : (bindings sharedWork).read? .changes =
      some "Started by changes from alice, bob, unknown (8 file(s) changed)" := by
    decide +kernel
  refine ⟨stands, order _ (List.reverse_perm _) _ (by decide), ?_, authors, increasing, summed,
    Option.some.inj (summed.symm.trans shown)⟩
  exact grouping group rest _ merged (by decide) stands (by decide) _ (by decide)

end BuildNotices
