import BuildNotices.Proofs.Variables.Changes
import Std.Data.String.ToNat
/-!
Counts of test results.

The tests that passed are what is left of all tests. Counts have 64 bits, and a sum or a difference
that does not fit is held at the limit; nothing of this shows in what is left. So the counts among
the variables, read back as numbers, add up whenever there are enough tests for those that failed
or were skipped.
-/

namespace BuildNotices

open Text

/-! ### Held at a limit -/

theorem toNat_saturatingAdd (left right : UInt64) :
    (saturatingAdd left right).toNat = min (left.toNat + right.toNat) (2 ^ 64 - 1) := by
  have leftSmall := left.toNat_lt
  have rightSmall := right.toNat_lt
  have sum : (left + right).toNat = (left.toNat + right.toNat) % 2 ^ 64 := UInt64.toNat_add ..
  unfold saturatingAdd
  split
  next wrapped =>
    -- Only a sum that has wrapped around is less than a part of it.
    rw [UInt64.lt_iff_toNat_lt, sum] at wrapped
    have largest : (0xFFFFFFFFFFFFFFFF : UInt64).toNat = 2 ^ 64 - 1 := rfl
    omega
  next whole =>
    rw [UInt64.lt_iff_toNat_lt, sum] at whole
    omega

theorem toNat_saturatingSub (left right : UInt64) :
    (saturatingSub left right).toNat = left.toNat - right.toNat := by
  unfold saturatingSub
  split
  next less =>
    have below := UInt64.lt_iff_toNat_lt.mp less
    rw [UInt64.toNat_zero]
    omega
  next enough =>
    exact UInt64.toNat_sub_of_le left right (UInt64.not_lt.mp enough)

/-- A sum that is held at the largest count leaves nothing, and neither does the sum itself. -/
theorem TestSummary.toNat_passed (tests : TestSummary) :
    tests.passed.toNat = tests.total.toNat - (tests.failed.toNat + tests.skipped.toNat) := by
  have small := tests.total.toNat_lt
  rw [passed, toNat_saturatingSub, toNat_saturatingAdd]
  omega

/-! ### Counts that are read back -/

namespace Variables

def number? (bindings : Variables) (name : ReservedName) : Option Nat :=
  (bindings.read? name).bind String.toNat?

/-- What the counts among some variables are as numbers. -/
structure HasCounts (bindings : Variables) (total failed skipped successful : Nat) : Prop where
  total : bindings.number? .testCount = some total
  failed : bindings.number? .failedTestCount = some failed
  skipped : bindings.number? .skippedTestCount = some skipped
  successful : bindings.number? .successTestCount = some successful

variable {bindings : Variables} {run : Run} {server : Option String} {now : Instant}

theorem TellAbout.number?_of_mem (telling : bindings.TellAbout run server now)
    {name : ReservedName} {count : UInt64}
    (member : (name, toString count.toNat) ∈ run.ownVariables server now) :
    bindings.number? name = some count.toNat := by
  rw [number?, telling.read?_of_mem member, Option.bind_some, Nat.toString_eq_repr,
    Nat.toNat?_repr]

theorem TellAbout.hasCounts (telling : bindings.TellAbout run server now) {tests : TestSummary}
    (tested : run.tests = some tests) :
    bindings.HasCounts tests.total.toNat tests.failed.toNat tests.skipped.toNat
      tests.passed.toNat := by
  constructor <;>
    exact telling.number?_of_mem (by simp [Run.ownVariables, Run.testVariables, tested])

end Variables

/-- The tests that passed are exactly those that neither failed nor were skipped, or none where
these are more than all tests. Wherever a run has variables about test results, its counts, read
back as numbers, add up exactly when they can, and otherwise no test is told to have passed. -/
theorem counts_add_up_iff (run : Run) (server : Option String) (now : Instant) :
    let bindings := run.allVariables server now
    (∀ tests : TestSummary, (tests.passed.toNat : Int) =
      max 0 ((tests.total.toNat : Int) - tests.failed.toNat - tests.skipped.toNat)) ∧
    ∀ name : ReservedName, name.isAboutTests = true → bindings.contains name.text = true →
      ∃ tests successful, run.tests = some tests ∧
        bindings.HasCounts tests.total.toNat tests.failed.toNat tests.skipped.toNat successful ∧
        (successful + tests.failed.toNat + tests.skipped.toNat = tests.total.toNat ↔
          tests.failed.toNat + tests.skipped.toNat ≤ tests.total.toNat) ∧
        (¬ tests.failed.toNat + tests.skipped.toNat ≤ tests.total.toNat → successful = 0) := by
  intro bindings
  have telling : bindings.TellAbout run server now :=
    Variables.tellAbout_allVariables run server now
  constructor
  · intro tests
    have passed := tests.toNat_passed
    omega
  · intro name about present
    rw [Dictionary.contains_eq_isSome, ← Variables.read?,
      telling.isSome_read?_of_isAboutTests about] at present
    obtain ⟨tests, tested⟩ := Option.isSome_iff_exists.mp present
    have passed := tests.toNat_passed
    exact ⟨tests, _, tested, telling.hasCounts tested, by omega, by omega⟩

/-- A run whose failed and skipped tests are more than a count of 64 bits can tell. -/
def overflowingRun : Run where
  tests := some { total := 5, failed := 0xFFFFFFFFFFFFFFFF, skipped := 3 }

theorem counts_of_overflowing_run :
    let bindings := overflowingRun.allVariables none default
    bindings.contains "TEST_COUNT" = true ∧ bindings.HasCounts 5 (2 ^ 64 - 1) 3 0 := by
  intro bindings
  have present : bindings.contains ReservedName.testCount.text = true := by decide +kernel
  obtain ⟨tests, successful, tested, counts, _, none⟩ :=
    (counts_add_up_iff overflowingRun none default).2 .testCount rfl present
  cases tested
  have nothing : successful = 0 := none (by decide)
  subst nothing
  exact ⟨present, counts⟩

end BuildNotices
