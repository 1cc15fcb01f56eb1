import BuildNotices.Proofs.Text.Search
import BuildNotices.Template
/-!
What a list of modifiers says about escaping.

A modifier sets the escape flag when it has an equals sign and the text in front of its
first one trims to the key. The last modifier of a list that sets the flag decides.
-/

namespace BuildNotices
namespace Template

open Text

/-- A modifier sets the escape flag to a value. -/
def SetsEscape (modifier value : List Char) : Prop :=
  ∃ key, modifier = key ++ '=' :: value ∧ '=' ∉ key ∧ trim key = "escape".toList

/-- Without blanks, and then without quotes, a value is `true` in any ASCII case. -/
def MeansTrue (value : List Char) : Prop :=
  (stripWhile (· = '\x22') (trim value)).map Char.toLower = "true".toList

instance (value : List Char) : Decidable (MeansTrue value) :=
  inferInstanceAs (Decidable (_ = _))

/-- One of the modifiers in a list sets the escape flag to a value. -/
def SetsFlag (modifiers : List Char) : Prop :=
  ∃ modifier ∈ fields ',' modifiers, ∃ value, SetsEscape modifier value

/-- The last modifier of a list that sets the escape flag sets it to a true value. -/
def EscapesLast (modifiers : List Char) : Prop :=
  ∃ before modifier value after,
    fields ',' modifiers = before ++ modifier :: after ∧ SetsEscape modifier value ∧
      MeansTrue value ∧ ∀ later ∈ after, ∀ other, ¬ SetsEscape later other

/-! ### One modifier -/

theorem flag?_of_setsEscape {modifier value : List Char} (sets : SetsEscape modifier value) :
    flag? modifier = some (decide (MeansTrue value)) := by
  obtain ⟨key, rfl, absent, named⟩ := sets
  simp only [flag?, span_ne value absent, named, if_true]
  rfl

theorem setsEscape_of_flag? {modifier : List Char} {flag : Bool}
    (found : flag? modifier = some flag) :
    ∃ value, SetsEscape modifier value ∧ flag = decide (MeansTrue value) := by
  unfold flag? at found
  split at found
  next stop value behind =>
    obtain ⟨split, closing⟩ := span_split behind
    have equals : stop = '=' := by simpa using closing
    rw [equals] at split
    split at found
    next named =>
      exact ⟨value, ⟨modifier.takeWhile (fun c => decide (c ≠ '=')), split,
        not_mem_takeWhile_ne '=' modifier, named⟩, (Option.some.inj found).symm⟩
    next => cases found
  next => cases found

theorem flag?_eq_none_iff {modifier : List Char} :
    flag? modifier = none ↔ ∀ value, ¬ SetsEscape modifier value := by
  constructor
  · intro silent value sets
    rw [flag?_of_setsEscape sets] at silent
    cases silent
  · intro silent
    cases found : flag? modifier with
    | none => rfl
    | some flag =>
        obtain ⟨value, sets, _⟩ := setsEscape_of_flag? found
        exact absurd sets (silent value)

/-! ### A list of modifiers -/

/-- The flag of a later list goes before that of an earlier one. -/
theorem escapeFlag_append (first second : List Char) :
    escapeFlag (first ++ ',' :: second) = (escapeFlag second).or (escapeFlag first) := by
  unfold escapeFlag
  rw [fields_append, List.filterMap_append, List.getLast?_append]

theorem escapeFlag_of_not_mem {modifier : List Char} (single : ',' ∉ modifier) :
    escapeFlag modifier = flag? modifier := by
  rw [escapeFlag, fields_of_not_mem single]
  cases found : flag? modifier with
  | none => rw [List.filterMap_cons_none found, List.filterMap_nil, List.getLast?_nil]
  | some flag => rw [List.filterMap_cons_some found, List.filterMap_nil, List.getLast?_singleton]

theorem escapeFlag_eq_some_iff {modifiers : List Char} {flag : Bool} :
    escapeFlag modifiers = some flag ↔
      ∃ before modifier after, fields ',' modifiers = before ++ modifier :: after ∧
        flag? modifier = some flag ∧ ∀ later ∈ after, flag? later = none := by
  unfold escapeFlag
  rw [List.getLast?_filterMap, List.findSome?_eq_some_iff]
  constructor
  · rintro ⟨after, modifier, before, split, said, silent⟩
    refine ⟨before.reverse, modifier, after.reverse, ?_, said, ?_⟩
    · have mirrored := congrArg List.reverse split
      simpa using mirrored
    · exact fun later member => silent later (List.mem_reverse.mp member)
  · rintro ⟨before, modifier, after, split, said, silent⟩
    refine ⟨after.reverse, modifier, before.reverse, ?_, said, ?_⟩
    · rw [split]
      simp
    · exact fun later member => silent later (List.mem_reverse.mp member)

theorem escapeFlag_eq_none_iff {modifiers : List Char} :
    escapeFlag modifiers = none ↔ ¬ SetsFlag modifiers := by
  unfold escapeFlag
  rw [List.getLast?_eq_none_iff, List.filterMap_eq_nil_iff]
  simp only [flag?_eq_none_iff, SetsFlag, not_exists, not_and]

theorem escapeFlag_eq_true_iff {modifiers : List Char} :
    escapeFlag modifiers = some true ↔ EscapesLast modifiers := by
  rw [escapeFlag_eq_some_iff]
  constructor
  · rintro ⟨before, modifier, after, split, said, silent⟩
    obtain ⟨value, sets, meaning⟩ := setsEscape_of_flag? said
    exact ⟨before, modifier, value, after, split, sets, of_decide_eq_true meaning.symm,
      fun later member => flag?_eq_none_iff.mp (silent later member)⟩
  · rintro ⟨before, modifier, value, after, split, sets, meaning, silent⟩
    refine ⟨before, modifier, after, split, ?_, ?_⟩
    · rw [flag?_of_setsEscape sets, decide_eq_true meaning]
    · exact fun later member => flag?_eq_none_iff.mpr (silent later member)

instance (modifiers : List Char) : Decidable (EscapesLast modifiers) :=
  decidable_of_iff (escapeFlag modifiers = some true) escapeFlag_eq_true_iff

end Template
end BuildNotices
