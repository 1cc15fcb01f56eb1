import BuildNotices.Config.Basic
import BuildNotices.Proofs.Delivery.Request
import Mathlib.Data.List.Induction
/-!
Tables of entries.

A list of entries makes a table exactly when no two of them are for one category, and the table
then holds these entries and nothing else. So their order does not matter. A category that has an
entry never falls back to its built-in one, whether the entry is enabled or not.
-/

namespace BuildNotices

def DistinctCategories (entries : List CategorySettings) : Prop :=
  entries.Pairwise fun first second => first.category ≠ second.category

/-- Of the entries whose category an earlier one has, this is the first. -/
def IsFirstRepeat (entries : List CategorySettings) (repeated : CategorySettings) : Prop :=
  ∃ earlier later, entries = earlier ++ repeated :: later ∧ DistinctCategories earlier ∧
    ∃ settings ∈ earlier, settings.category = repeated.category

theorem distinctCategories_cons {settings : CategorySettings} {rest : List CategorySettings} :
    DistinctCategories (settings :: rest) ↔
      (∀ other ∈ rest, settings.category ≠ other.category) ∧ DistinctCategories rest :=
  List.pairwise_cons

theorem DistinctCategories.of_perm {first second : List CategorySettings}
    (reordered : first.Perm second) (distinct : DistinctCategories first) :
    DistinctCategories second :=
  (reordered.pairwise_iff Ne.symm).mp distinct

/-- Entries that are not distinct have a first one that repeats a category. -/
theorem exists_firstRepeat {entries : List CategorySettings}
    (shared : ¬ DistinctCategories entries) : ∃ repeated, IsFirstRepeat entries repeated := by
  induction entries using List.reverseRecOn with
  | nil => exact absurd List.Pairwise.nil shared
  | append_singleton earlier last ih =>
      by_cases distinct : DistinctCategories earlier
      · by_cases fresh : ∀ settings ∈ earlier, settings.category ≠ last.category
        · refine absurd ?_ shared
          refine List.pairwise_append.mpr ⟨distinct, List.pairwise_singleton _ _, ?_⟩
          intro settings member other single
          rw [List.mem_singleton.mp single]
          exact fresh settings member
        · push Not at fresh
          exact ⟨last, earlier, [], rfl, distinct, fresh⟩
      · obtain ⟨repeated, front, back, rfl, before, found⟩ := ih distinct
        exact ⟨repeated, front, back ++ [last], by rw [List.append_assoc, List.cons_append],
          before, found⟩

namespace NotificationTable

@[simp]
theorem entry_insert (table : NotificationTable) (settings : CategorySettings)
    (category : Category) :
    (table.insert settings).entry category =
      if category = settings.category then some settings else table.entry category := rfl

@[simp]
theorem entry_withFallback (table defaults : NotificationTable) (category : Category) :
    (table.withFallback defaults).entry category =
      (table.entry category <|> defaults.entry category) := rfl

/-! ### What a table holds -/

/-- A table has these entries, each under its category, and no other ones. -/
def Holds (table : NotificationTable) (entries : List CategorySettings) : Prop :=
  ∀ category settings, table.entry category = some settings ↔
    settings ∈ entries ∧ settings.category = category

theorem Holds.of_perm {table : NotificationTable} {first second : List CategorySettings}
    (reordered : first.Perm second) (holds : table.Holds first) : table.Holds second :=
  fun category settings => (holds category settings).trans (and_congr_left' reordered.mem_iff)

theorem Holds.unique {first second : NotificationTable} {entries : List CategorySettings}
    (left : first.Holds entries) (right : second.Holds entries) : first = second :=
  ext_entry fun category => Option.ext fun settings =>
    (left category settings).trans (right category settings).symm

theorem Holds.entry_of_mem {table : NotificationTable} {entries : List CategorySettings}
    (holds : table.Holds entries) {settings : CategorySettings} (member : settings ∈ entries) :
    table.entry settings.category = some settings :=
  (holds settings.category settings).mpr ⟨member, rfl⟩

theorem Holds.entry_eq_none {table : NotificationTable} {entries : List CategorySettings}
    (holds : table.Holds entries) {category : Category}
    (absent : ∀ settings ∈ entries, settings.category ≠ category) :
    table.entry category = none := by
  rw [Option.eq_none_iff_forall_ne_some]
  intro settings found
  obtain ⟨member, same⟩ := (holds category settings).mp found
  exact absent settings member same

/-! ### Adding entries -/

theorem insertAll_cons {table : NotificationTable} {settings : CategorySettings}
    (rest : List CategorySettings) (free : table.entry settings.category = none) :
    table.insertAll (settings :: rest) = (table.insert settings).insertAll rest := by
  rw [insertAll, free, Option.isSome_none, if_neg Bool.false_ne_true]

theorem insertAll_cons_of_taken {table : NotificationTable} {settings stored : CategorySettings}
    (rest : List CategorySettings) (taken : table.entry settings.category = some stored) :
    table.insertAll (settings :: rest) = .error (.configuration
      ("Duplicate notification entry for category " ++ settings.category.name)) := by
  rw [insertAll, taken, Option.isSome_some, if_pos rfl]

theorem entry_insert_eq_some_iff {table : NotificationTable} {settings stored : CategorySettings}
    (free : table.entry settings.category = none) (category : Category) :
    (table.insert settings).entry category = some stored ↔
      table.entry category = some stored ∨ stored = settings ∧ settings.category = category := by
  by_cases same : category = settings.category
  · simp [same, free, eq_comm]
  · simp [same, Ne.symm same]

/-- Entries for distinct categories that are all free can be added, and nothing else changes. -/
theorem exists_insertAll {entries : List CategorySettings} (distinct : DistinctCategories entries)
    {table : NotificationTable}
    (free : ∀ settings ∈ entries, table.entry settings.category = none) :
    ∃ filled, table.insertAll entries = .ok filled ∧ ∀ category settings,
      filled.entry category = some settings ↔
        table.entry category = some settings ∨
          settings ∈ entries ∧ settings.category = category := by
  induction entries generalizing table with
  | nil => exact ⟨table, rfl, fun _ _ => by simp⟩
  | cons first rest ih =>
      obtain ⟨apart, others⟩ := distinctCategories_cons.mp distinct
      obtain ⟨freeFirst, freeRest⟩ := List.forall_mem_cons.mp free
      have stillFree : ∀ settings ∈ rest,
          (table.insert first).entry settings.category = none := by
        intro settings member
        rw [entry_insert, if_neg (Ne.symm (apart settings member))]
        exact freeRest settings member
      obtain ⟨filled, made, found⟩ := ih others stillFree
      refine ⟨filled, (insertAll_cons rest freeFirst).trans made, fun category settings => ?_⟩
      rw [found, entry_insert_eq_some_iff freeFirst, List.mem_cons, or_and_right, or_assoc]
      refine or_congr_right (or_congr_left (and_congr_right ?_))
      rintro rfl
      rfl

theorem insertAll_append {table filled : NotificationTable} {front : List CategorySettings}
    (made : table.insertAll front = .ok filled) (back : List CategorySettings) :
    table.insertAll (front ++ back) = filled.insertAll back := by
  induction front generalizing table with
  | nil =>
      cases made
      rfl
  | cons settings rest ih =>
      rw [List.cons_append]
      cases found : table.entry settings.category with
      | none =>
          rw [insertAll_cons _ found] at made ⊢
          exact ih made
      | some stored =>
          rw [insertAll_cons_of_taken _ found] at made
          cases made

/-! ### Tables of explicit entries -/

theorem exists_ofEntries {entries : List CategorySettings} (distinct : DistinctCategories entries) :
    ∃ table, ofEntries entries = .ok table ∧ table.Holds entries := by
  have free : ∀ settings ∈ entries, empty.entry settings.category = none := fun _ _ => rfl
  obtain ⟨table, made, found⟩ := exists_insertAll distinct free
  refine ⟨table, made, fun category settings => (found category settings).trans ?_⟩
  simp [empty]

theorem ofEntries_of_firstRepeat {entries : List CategorySettings} {repeated : CategorySettings}
    (first : IsFirstRepeat entries repeated) :
    ofEntries entries = .error (.configuration
      ("Duplicate notification entry for category " ++ repeated.category.name)) := by
  obtain ⟨earlier, later, rfl, distinct, settings, member, same⟩ := first
  obtain ⟨table, made, holds⟩ := exists_ofEntries distinct
  rw [ofEntries, insertAll_append made]
  exact insertAll_cons_of_taken later (same ▸ holds.entry_of_mem member)

theorem ofEntries_eq_ok_iff {entries : List CategorySettings} {table : NotificationTable} :
    ofEntries entries = .ok table ↔ DistinctCategories entries ∧ table.Holds entries := by
  by_cases distinct : DistinctCategories entries
  · obtain ⟨made, success, holds⟩ := exists_ofEntries distinct
    rw [success]
    constructor
    · rintro same
      cases same
      exact ⟨distinct, holds⟩
    · rintro ⟨_, same⟩
      rw [holds.unique same]
  · obtain ⟨repeated, first⟩ := exists_firstRepeat distinct
    rw [ofEntries_of_firstRepeat first]
    exact iff_of_false nofun fun both => distinct both.1

theorem ofEntries_eq_error_iff {entries : List CategorySettings} {error : NoticeError} :
    ofEntries entries = .error error ↔ ∃ repeated, IsFirstRepeat entries repeated ∧
      error = .configuration
        ("Duplicate notification entry for category " ++ repeated.category.name) := by
  constructor
  · intro failed
    have shared : ¬ DistinctCategories entries := by
      intro distinct
      obtain ⟨table, made, _⟩ := exists_ofEntries distinct
      rw [made] at failed
      cases failed
    obtain ⟨repeated, first⟩ := exists_firstRepeat shared
    rw [ofEntries_of_firstRepeat first] at failed
    cases failed
    exact ⟨repeated, first, rfl⟩
  · rintro ⟨repeated, first, rfl⟩
    exact ofEntries_of_firstRepeat first

/-! ### Entries over the built-in ones -/

theorem withDefaults_eq_ok_iff {entries : List CategorySettings} {table : NotificationTable} :
    withDefaults entries = .ok table ↔
      ∃ explicit, ofEntries entries = .ok explicit ∧ explicit.withFallback builtIn = table := by
  rw [withDefaults]
  cases ofEntries entries with
  | error error => simp [Except.map]
  | ok explicit => simp [Except.map]

/-- A table with an entry for every category lists one for each, in the order of the categories. -/
theorem map_category_toList {table : NotificationTable}
    (total : ∀ category, (table.entry category).isSome = true) :
    table.toList.map CategorySettings.category = Category.all := by
  have own (category : Category) :
      (table.entry category).map CategorySettings.category = some category := by
    obtain ⟨settings, found⟩ := Option.isSome_iff_exists.mp (total category)
    rw [found, Option.map_some, table.filed category settings found]
  rw [toList, List.map_filterMap, funext own, List.filterMap_some]

theorem isSome_entry_withFallback_builtIn (explicit : NotificationTable) (category : Category) :
    ((explicit.withFallback builtIn).entry category).isSome = true := by
  cases found : explicit.entry category with
  | none => simp [found, builtIn]
  | some settings => simp [found]

section Selection

variable {explicit defaults : NotificationTable} {entries : List CategorySettings}
  (holds : explicit.Holds entries)

include holds

/-- The own entry of a category counts even when it is disabled. -/
theorem select_withFallback_of_mem {settings : CategorySettings} (member : settings ∈ entries) :
    (explicit.withFallback defaults).select settings.category =
      if settings.enabled then some settings else none := by
  rw [select, entry_withFallback, holds.entry_of_mem member]
  exact Option.filter_some

theorem select_withFallback_of_absent {category : Category}
    (absent : ∀ settings ∈ entries, settings.category ≠ category) :
    (explicit.withFallback defaults).select category = defaults.select category := by
  rw [select, entry_withFallback, holds.entry_eq_none absent]
  rfl

end Selection

/-- Every category has its own entry, if it is enabled, and only without one the built-in entry,
if that is enabled. -/
structure SelectsOver (table : NotificationTable) (entries : List CategorySettings) : Prop where
  own : ∀ settings ∈ entries,
    table.select settings.category = if settings.enabled then some settings else none
  builtIn : ∀ category, (∀ settings ∈ entries, settings.category ≠ category) →
    table.select category = if (CategorySettings.builtIn category).enabled then
      some (CategorySettings.builtIn category) else none

/-- Entries make a table unless two are for one category, and otherwise the first one that repeats
a category is reported. The table holds these entries in any order. The same entries can be put
over the built-in ones; then every category has one entry, and its own one where there is one. -/
theorem table_holds_distinct_entries (entries : List CategorySettings) :
    ((∃ table, ofEntries entries = .ok table) ↔ DistinctCategories entries) ∧
    (∀ error, ofEntries entries = .error error ↔ ∃ repeated, IsFirstRepeat entries repeated ∧
      error = .configuration
        ("Duplicate notification entry for category " ++ repeated.category.name)) ∧
    (∀ table, ofEntries entries = .ok table → table.Holds entries) ∧
    (∀ other, entries.Perm other →
      ∀ table, ofEntries entries = .ok table ↔ ofEntries other = .ok table) ∧
    ((∃ table, withDefaults entries = .ok table) ↔ ∃ table, ofEntries entries = .ok table) ∧
    (∀ table, withDefaults entries = .ok table →
      table.toList.map CategorySettings.category = Category.all ∧ table.SelectsOver entries) := by
  refine ⟨?_, fun error => ofEntries_eq_error_iff, ?_, ?_, ?_, ?_⟩
  · constructor
    · rintro ⟨table, made⟩
      exact (ofEntries_eq_ok_iff.mp made).1
    · intro distinct
      obtain ⟨table, made, _⟩ := exists_ofEntries distinct
      exact ⟨table, made⟩
  · intro table made
    exact (ofEntries_eq_ok_iff.mp made).2
  · intro other reordered table
    rw [ofEntries_eq_ok_iff, ofEntries_eq_ok_iff]
    exact ⟨fun made => ⟨made.1.of_perm reordered, made.2.of_perm reordered⟩,
      fun made => ⟨made.1.of_perm reordered.symm, made.2.of_perm reordered.symm⟩⟩
  · constructor
    · rintro ⟨table, made⟩
      obtain ⟨explicit, success, _⟩ := withDefaults_eq_ok_iff.mp made
      exact ⟨explicit, success⟩
    · rintro ⟨explicit, success⟩
      exact ⟨_, withDefaults_eq_ok_iff.mpr ⟨explicit, success, rfl⟩⟩
  · intro table made
    obtain ⟨explicit, success, rfl⟩ := withDefaults_eq_ok_iff.mp made
    have holds : explicit.Holds entries := (ofEntries_eq_ok_iff.mp success).2
    refine ⟨map_category_toList (isSome_entry_withFallback_builtIn explicit), ?_, ?_⟩
    · intro settings member
      exact select_withFallback_of_mem holds member
    · intro category absent
      rw [select_withFallback_of_absent holds absent]
      exact Option.filter_some

/-- Failures are muted, starts are told in purple, and a run that was aborted is told as ever. -/
theorem table_of_muted_failure :
    let muted : CategorySettings := { category := .failure, enabled := false, color := .red }
    let told : CategorySettings := { category := .started, color := .purple }
    DistinctCategories [muted, told] ∧ ∃ table, withDefaults [muted, told] = .ok table ∧
      table.select .failure = none ∧ table.select .started = some told ∧
      table.select .aborted = some (.builtIn .aborted) := by
  intro muted told
  have distinct : DistinctCategories [muted, told] := by
    simp [DistinctCategories, muted, told]
  obtain ⟨success, _, _, _, defaults, layered⟩ := table_holds_distinct_entries [muted, told]
  obtain ⟨table, made⟩ := defaults.mpr (success.mpr distinct)
  obtain ⟨_, selects⟩ := layered table made
  exact ⟨distinct, table, made, selects.own muted (by simp), selects.own told (by simp),
    selects.builtIn .aborted (by decide)⟩

end NotificationTable

end BuildNotices
