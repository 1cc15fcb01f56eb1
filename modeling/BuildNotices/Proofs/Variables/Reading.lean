import BuildNotices.Proofs.Variables.Reserved
import Mathlib.Data.List.Nodup
/-!
Reading the variables of a run.

The library lists no name twice, so a reserved name has exactly the value that is listed with
it. The variables that depend on the category are put over the others and hide none of them.
-/

namespace BuildNotices

open Text

theorem lastUnder?_eq_some_iff {α : Type} {pairs : List (String × α)}
    (distinct : (pairs.map Prod.fst).Nodup) {name : String} {value : α} :
    lastUnder? name pairs = some value ↔ (name, value) ∈ pairs := by
  induction pairs with
  | nil => simp [lastUnder?]
  | cons pair rest ih =>
      rw [List.map_cons, List.nodup_cons] at distinct
      obtain ⟨fresh, others⟩ := distinct
      rw [lastUnder?, List.mem_cons, Prod.ext_iff]
      by_cases same : pair.1 = name
      · -- The name does not come again behind its pair.
        have absent : ∀ other, (name, other) ∉ rest := by
          intro other member
          rw [same] at fresh
          exact fresh (List.mem_map_of_mem member)
        have silent : lastUnder? name rest = none := by
          rw [lastUnder?_eq_none_iff]
          intro entry member equal
          exact absent entry.2 (equal ▸ member)
        rw [silent, Option.none_or, if_pos same, Option.some_inj]
        constructor
        · intro equal
          exact Or.inl ⟨same.symm, equal.symm⟩
        · rintro (⟨_, equal⟩ | member)
          · exact equal.symm
          · exact absurd member (absent value)
      · rw [if_neg same, Option.or_none, ih others]
        constructor
        · exact Or.inr
        · rintro (⟨equal, _⟩ | member)
          · exact absurd equal.symm same
          · exact member

namespace Run

theorem ownVariables_nodup (run : Run) (server : Option String) (now : Instant) :
    ((run.ownVariables server now).map Prod.fst).Nodup := by
  unfold ownVariables testVariables changeVariables
  cases run.tests <;> cases run.changeReport <;>
    · simp only [List.map_append, List.map_cons, List.map_nil]
      decide

theorem ownPairs_nodup (run : Run) (server : Option String) (now : Instant) :
    ((run.ownPairs server now).map Prod.fst).Nodup := by
  have names : (run.ownPairs server now).map Prod.fst =
      ((run.ownVariables server now).map Prod.fst).map ReservedName.text := by
    simp only [ownPairs, List.map_map]
    rfl
  rw [names]
  exact (ownVariables_nodup run server now).map fun _ _ => ReservedName.text_injective

theorem mem_ownPairs_iff {run : Run} {server : Option String} {now : Instant}
    {name : ReservedName} {value : String} :
    (name.text, value) ∈ run.ownPairs server now ↔ (name, value) ∈ run.ownVariables server now := by
  constructor
  · intro member
    obtain ⟨⟨other, text⟩, inside, same⟩ := List.mem_map.mp member
    obtain ⟨named, rfl⟩ := Prod.mk.inj same
    rw [← ReservedName.text_injective named]
    exact inside
  · intro member
    exact List.mem_map.mpr ⟨(name, value), member, rfl⟩

theorem read?_allVariables_eq_some_iff {run : Run} {server : Option String} {now : Instant}
    {name : ReservedName} {value : String} :
    (run.allVariables server now).read? name = some value ↔
      (name, value) ∈ run.ownVariables server now := by
  rw [read?_allVariables, lastUnder?_eq_some_iff (ownPairs_nodup run server now),
    mem_ownPairs_iff]

end Run

namespace Variables

/-- Some bindings give the names that do not depend on a category the values that the library
lists for a run, and no others. -/
def TellAbout (bindings : Variables) (run : Run) (server : Option String) (now : Instant) :
    Prop :=
  ∀ (name : ReservedName) (value : String), name.dependsOnCategory = false →
    (bindings.read? name = some value ↔ (name, value) ∈ run.ownVariables server now)

theorem tellAbout_allVariables (run : Run) (server : Option String) (now : Instant) :
    TellAbout (run.allVariables server now) run server now := by
  intro name value _
  exact Run.read?_allVariables_eq_some_iff

theorem read?_forCategory {name : ReservedName} (independent : name.dependsOnCategory = false)
    (bindings : Variables) (category : Category) :
    (bindings.forCategory category).read? name = bindings.read? name := by
  have other (dependent : ReservedName) (depends : dependent.dependsOnCategory = true) :
      name.text ≠ dependent.text := by
    intro same
    rw [ReservedName.text_injective same, depends] at independent
    cases independent
  unfold read? forCategory
  rw [Dictionary.get?_insert_of_ne (other .printFullEnv rfl),
    Dictionary.get?_insert_of_ne (other .status rfl)]

namespace TellAbout

variable {bindings : Variables} {run : Run} {server : Option String} {now : Instant}

theorem forCategory (telling : bindings.TellAbout run server now) (category : Category) :
    TellAbout (bindings.forCategory category) run server now := by
  intro name value independent
  rw [read?_forCategory independent]
  exact telling name value independent

theorem read?_of_mem (telling : bindings.TellAbout run server now) {name : ReservedName}
    {value : String} (member : (name, value) ∈ run.ownVariables server now) :
    bindings.read? name = some value := by
  have independent := List.all_eq_true.mp (Run.ownVariables_independent run server now) _ member
  exact (telling name value (by simpa using independent)).mpr member

theorem value_of_mem (telling : bindings.TellAbout run server now) {name : ReservedName}
    {value : String} (member : (name, value) ∈ run.ownVariables server now) :
    bindings.value name.text = value := by
  have found : bindings.get? name.text = some value := telling.read?_of_mem member
  rw [Variables.value, found, Option.getD_some]

theorem read?_eq_none (telling : bindings.TellAbout run server now) {name : ReservedName}
    (independent : name.dependsOnCategory = false)
    (absent : ∀ value, (name, value) ∉ run.ownVariables server now) :
    bindings.read? name = none := by
  rw [Option.eq_none_iff_forall_ne_some]
  intro value found
  exact absent value ((telling name value independent).mp found)

end TellAbout

end Variables
end BuildNotices
