import BuildNotices.Proofs.Text.Dictionary
import BuildNotices.Variables.Collect
/-!
Who decides a variable.

A name that is not reserved has the value of the environment or else of the build variables.
A reserved name has the value that the library itself gives it, or none: what the build
contributes is left out before, and is not looked at in the own variables.
-/

namespace BuildNotices

open Text

/-! ### Reserved names -/

theorem isReserved_iff {name : String} :
    isReserved name = true ↔ ∃ reserved : ReservedName, reserved.text = name := by
  unfold isReserved
  rw [List.any_eq_true]
  constructor
  · rintro ⟨reserved, _, same⟩
    exact ⟨reserved, eq_of_beq same⟩
  · rintro ⟨reserved, same⟩
    exact ⟨reserved, reserved.mem_all, beq_iff_eq.mpr same⟩

theorem isReserved_text (reserved : ReservedName) : isReserved reserved.text = true :=
  isReserved_iff.mpr ⟨reserved, rfl⟩

theorem ReservedName.text_injective {first second : ReservedName}
    (same : first.text = second.text) : first = second := by
  have every : ∀ first ∈ ReservedName.all, ∀ second ∈ ReservedName.all,
      first.text = second.text → first = second := by decide
  exact every first first.mem_all second second.mem_all same

/-- Whether a name says something about the category, which a run alone does not have. -/
def ReservedName.dependsOnCategory : ReservedName → Bool
  | .status => true
  | .printFullEnv => true
  | _ => false

namespace Run

/-! ### What the library says -/

theorem testVariables_independent (run : Run) (url : String) :
    (run.testVariables url).all (fun entry => !entry.1.dependsOnCategory) = true := by
  unfold testVariables
  cases run.tests with
  | none => rfl
  | some summary => rfl

theorem changeVariables_independent (run : Run) :
    run.changeVariables.all (fun entry => !entry.1.dependsOnCategory) = true := by
  unfold changeVariables
  cases run.changeReport with
  | absent => rfl
  | incomplete summary => rfl
  | complete summary commitMessage => rfl

theorem ownVariables_independent (run : Run) (server : Option String) (now : Instant) :
    (run.ownVariables server now).all (fun entry => !entry.1.dependsOnCategory) = true := by
  unfold ownVariables
  rw [List.all_append, List.all_append, testVariables_independent, changeVariables_independent]
  rfl

def ownPairs (run : Run) (server : Option String) (now : Instant) : List (String × String) :=
  (run.ownVariables server now).map fun entry => (entry.1.text, entry.2)

theorem lastUnder?_ownPairs_of_unreserved {name : String} (free : isReserved name = false)
    (run : Run) (server : Option String) (now : Instant) :
    lastUnder? name (run.ownPairs server now) = none := by
  rw [lastUnder?_eq_none_iff]
  intro pair member same
  obtain ⟨entry, _, rfl⟩ := List.mem_map.mp member
  have reserved : isReserved name = true := isReserved_iff.mpr ⟨entry.1, same⟩
  rw [free] at reserved
  cases reserved

theorem lastUnder?_ownPairs_of_dependent {reserved : ReservedName}
    (dependent : reserved.dependsOnCategory = true) (run : Run) (server : Option String)
    (now : Instant) : lastUnder? reserved.text (run.ownPairs server now) = none := by
  rw [lastUnder?_eq_none_iff]
  intro pair member same
  obtain ⟨entry, inside, rfl⟩ := List.mem_map.mp member
  have equal : entry.1 = reserved := ReservedName.text_injective same
  have independent := List.all_eq_true.mp (ownVariables_independent run server now) entry inside
  rw [equal, dependent] at independent
  cases independent

/-! ### What the build contributes -/

theorem lastUnder?_givenVariables_of_reserved (reserved : ReservedName) (run : Run) :
    lastUnder? reserved.text run.givenVariables = none := by
  rw [lastUnder?_eq_none_iff]
  intro entry member same
  have kept := (List.mem_filter.mp member).2
  rw [same, isReserved_text] at kept
  cases kept

theorem lastUnder?_givenVariables {name : String} (free : isReserved name = false) (run : Run) :
    lastUnder? name run.givenVariables =
      (run.environment.get? name).or (run.buildVariables.get? name) := by
  have kept : (!isReserved name) = true := by rw [free, Bool.not_false]
  have unfiltered := lastUnder?_filter (fun name => !isReserved name) kept
    (run.buildVariables.entries ++ run.environment.entries)
  rw [givenVariables, unfiltered, lastUnder?_append, Dictionary.lastUnder?_entries,
    Dictionary.lastUnder?_entries]

/-! ### All variables -/

theorem get?_allVariables (run : Run) (server : Option String) (now : Instant)
    (name : String) :
    (run.allVariables server now).get? name =
      (lastUnder? name (run.ownPairs server now)).or (lastUnder? name run.givenVariables) := by
  rw [allVariables, Dictionary.get?_merge, Dictionary.get?_ofList]
  rfl

theorem get?_allVariables_of_unreserved {name : String} (free : isReserved name = false)
    (run : Run) (server : Option String) (now : Instant) :
    (run.allVariables server now).get? name =
      (run.environment.get? name).or (run.buildVariables.get? name) := by
  rw [get?_allVariables, lastUnder?_ownPairs_of_unreserved free, Option.none_or,
    lastUnder?_givenVariables free]

theorem read?_allVariables (run : Run) (server : Option String) (now : Instant)
    (reserved : ReservedName) :
    (run.allVariables server now).read? reserved =
      lastUnder? reserved.text (run.ownPairs server now) := by
  rw [Variables.read?, get?_allVariables, lastUnder?_givenVariables_of_reserved, Option.or_none]

/-- Only the library decides reserved names. Every other name is decided by the environment
and, where that is silent, by the build variables. The names that depend on the category have
no value yet, and nothing else has one. -/
theorem reserved_names_are_decided_by_library (run : Run) (server : Option String)
    (now : Instant) :
    (∀ name, isReserved name = false →
      (run.allVariables server now).get? name =
        (run.environment.get? name).or (run.buildVariables.get? name)) ∧
      (∀ (reserved : ReservedName) (environment buildVariables : Dictionary String),
        ({ run with environment, buildVariables }.allVariables server now).read? reserved =
          (run.allVariables server now).read? reserved) ∧
      (run.allVariables server now).contains ReservedName.status.text = false ∧
      (run.allVariables server now).contains ReservedName.printFullEnv.text = false ∧
      (∀ name, (run.allVariables server now).contains name = true →
        isReserved name = true ∨ run.environment.contains name = true ∨
          run.buildVariables.contains name = true) := by
  have silent (reserved : ReservedName) (dependent : reserved.dependsOnCategory = true) :
      (run.allVariables server now).contains reserved.text = false := by
    have absent := read?_allVariables run server now reserved
    rw [lastUnder?_ownPairs_of_dependent dependent] at absent
    rw [Dictionary.contains_eq_isSome, ← Variables.read?, absent]
    rfl
  refine ⟨?_, ?_, silent .status rfl, silent .printFullEnv rfl, ?_⟩
  · intro name free
    exact get?_allVariables_of_unreserved free run server now
  · intro reserved environment buildVariables
    rw [read?_allVariables, read?_allVariables]
    rfl
  · intro name present
    by_cases reserved : isReserved name = true
    · exact Or.inl reserved
    · have free : isReserved name = false := by simpa using reserved
      rw [Dictionary.contains_eq_isSome, get?_allVariables_of_unreserved free, Option.isSome_or,
        Bool.or_eq_true] at present
      rw [Dictionary.contains_eq_isSome, Dictionary.contains_eq_isSome]
      exact Or.inr present

/-- A build that tries to speak under reserved names. -/
def boastfulRun : Run where
  changes := some [{ affectedFiles := .unsupported }]
  buildVariables := .ofList [("BRANCH", "main"), ("STAGE", "one"), ("TEST_COUNT", "5")]
  environment := .ofList [("BRANCH", "release"), ("CHANGES", "many"), ("STATUS", "fine")]

theorem reserved_names_of_boastful_run :
    let bindings := boastfulRun.allVariables none default
    isReserved "BRANCH" = false ∧ isReserved "STAGE" = false ∧
      bindings.get? "BRANCH" = some "release" ∧ bindings.get? "STAGE" = some "one" ∧
      bindings.read? .testCount = none ∧ bindings.read? .changes = none ∧
      bindings.contains "STATUS" = false := by
  intro bindings
  obtain ⟨free, stable, silent, _, _⟩ :=
    reserved_names_are_decided_by_library boastfulRun none default
  have branch := free "BRANCH" (by decide)
  have stage := free "STAGE" (by decide)
  have tests := stable .testCount .empty .empty
  have changes := stable .changes .empty .empty
  refine ⟨by decide, by decide, branch.trans (by decide), stage.trans (by decide),
    tests.symm.trans (by decide +kernel), changes.symm.trans (by decide +kernel), silent⟩

end Run
end BuildNotices
