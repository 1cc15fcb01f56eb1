import BuildNotices.Proofs.Delivery.Server
import BuildNotices.Proofs.Variables.Changes
/-!
Addresses of runs.

A relative address is put behind the address of the build server with one slash between them,
however many slashes meet there. An address with a scheme stays as it is, and so does every address
where no build server is known. The other variables that hold an address follow this one.
-/

namespace BuildNotices

open Text

/-! ### Slashes -/

def slashes (count : Nat) : String :=
  String.ofList (List.replicate count '/')

theorem toList_slashes (count : Nat) : (slashes count).toList = List.replicate count '/' :=
  String.toList_ofList

theorem eq_slash_of_mem {count : Nat} {c : Char} (member : c ∈ List.replicate count '/') :
    (c == '/') = true := by
  rw [List.eq_of_mem_replicate member]
  rfl

structure IsLessFinalSlashes (short text : String) : Prop where
  longer : ∃ count, text = short ++ slashes count
  last : short.toList.getLast? ≠ some '/'

structure IsLessInitialSlashes (short text : String) : Prop where
  longer : ∃ count, text = slashes count ++ short
  first : short.toList.head? ≠ some '/'

theorem isLessFinalSlashes_withoutFinalSlashes (text : String) :
    IsLessFinalSlashes (withoutFinalSlashes text) text := by
  refine ⟨?_, getLast?_withoutFinalSlashes text⟩
  obtain ⟨count, parts⟩ := exists_final_slashes text
  refine ⟨count, String.toList_inj.mp ?_⟩
  rw [String.toList_append, toList_slashes, parts]

theorem isLessInitialSlashes_withoutInitialSlashes (text : String) :
    IsLessInitialSlashes (withoutInitialSlashes text) text := by
  have rest : (withoutInitialSlashes text).toList = text.toList.dropWhile (· == '/') :=
    String.toList_ofList
  constructor
  · have whole := List.takeWhile_append_dropWhile (p := (· == '/')) (l := text.toList)
    have front : ∀ c ∈ text.toList.takeWhile (· == '/'), c = '/' := fun c member =>
      beq_iff_eq.mp (List.mem_takeWhile_imp (p := (· == '/')) member)
    refine ⟨(text.toList.takeWhile (· == '/')).length, String.toList_inj.mp ?_⟩
    rw [String.toList_append, toList_slashes, ← List.eq_replicate_of_mem front, rest, whole]
  · intro first
    have other := List.head?_dropWhile_not (· == '/') text.toList
    rw [← rest, first] at other
    exact absurd other (by decide)

theorem withoutFinalSlashes_append_slashes (text : String) (count : Nat) :
    withoutFinalSlashes (text ++ slashes count) = withoutFinalSlashes text := by
  rw [withoutFinalSlashes, String.toList_append, toList_slashes,
    dropTailWhile_append_of_all fun c => eq_slash_of_mem, withoutFinalSlashes]

theorem withoutInitialSlashes_slashes_append (text : String) (count : Nat) :
    withoutInitialSlashes (slashes count ++ text) = withoutInitialSlashes text := by
  rw [withoutInitialSlashes, String.toList_append, toList_slashes,
    List.dropWhile_append_of_pos fun c => eq_slash_of_mem, withoutInitialSlashes]

/-- The mark of a scheme starts with no slash, so it is behind the slashes or nowhere. -/
theorem hasSchemeMark_slashes_append (text : String) (count : Nat) :
    hasSchemeMark (slashes count ++ text) = hasSchemeMark text := by
  rw [Bool.eq_iff_iff, hasSchemeMark, contains_eq_true_iff, hasSchemeMark, contains_eq_true_iff,
    String.toList_append, toList_slashes]
  induction count with
  | zero => rfl
  | succ count ih =>
      rw [List.replicate_succ, List.cons_append, List.infix_cons_iff, ih]
      refine or_iff_right ?_
      rintro ⟨behind, starts⟩
      exact absurd (congrArg List.head? starts) (by simp)

theorem allBlank_append_slashes {base : String} (visible : allBlank base = false) (count : Nat) :
    allBlank (base ++ slashes count) = false := by
  unfold allBlank at visible ⊢
  rw [String.toList_append, List.all_append, visible, Bool.false_and]

/-! ### The address of a run -/

section Address

variable {server : Option String} {base url : String}

theorem absoluteUrl_of_mark (marked : hasSchemeMark url = true) (server : Option String) :
    absoluteUrl server url = url := by
  unfold absoluteUrl
  exact if_pos marked

theorem absoluteUrl_of_unknown (unknown : ∀ base, server = some base → allBlank base = true)
    (url : String) : absoluteUrl server url = url := by
  unfold absoluteUrl
  split
  · rfl
  · cases server with
    | none => rfl
    | some base => exact if_pos (unknown base rfl)

theorem absoluteUrl_of_relative (markless : hasSchemeMark url = false)
    (visible : allBlank base = false) :
    absoluteUrl (some base) url =
      withoutFinalSlashes base ++ "/" ++ withoutInitialSlashes url := by
  simp only [absoluteUrl, markless, visible, Bool.false_eq_true, if_false]

theorem absoluteUrl_slashes (markless : hasSchemeMark url = false)
    (visible : allBlank base = false) (final initial : Nat) :
    absoluteUrl (some (base ++ slashes final)) (slashes initial ++ url) =
      absoluteUrl (some base) url := by
  have stillMarkless : hasSchemeMark (slashes initial ++ url) = false := by
    rw [hasSchemeMark_slashes_append, markless]
  rw [absoluteUrl_of_relative stillMarkless (allBlank_append_slashes visible final),
    absoluteUrl_of_relative markless visible, withoutFinalSlashes_append_slashes,
    withoutInitialSlashes_slashes_append]

end Address

namespace Run

/-- Nothing depends on an address but through the absolute one. -/
theorem allVariables_congr_url {run : Run} {server other : Option String} {url : String}
    (same : absoluteUrl other url = absoluteUrl server run.url) (now : Instant) :
    { run with url }.allVariables other now = run.allVariables server now := by
  unfold allVariables ownVariables
  dsimp only
  rw [same]
  rfl

end Run

namespace Variables.TellAbout

variable {bindings : Variables} {run : Run} {server : Option String} {now : Instant}

theorem read?_url (telling : bindings.TellAbout run server now) :
    bindings.read? .url = some (absoluteUrl server run.url) :=
  telling.read?_of_mem (by simp [Run.ownVariables])

theorem read?_blueOceanUrl (telling : bindings.TellAbout run server now) :
    bindings.read? .blueOceanUrl = some (absoluteUrl server run.url) :=
  telling.read?_of_mem (by simp [Run.ownVariables])

theorem read?_testReportUrl (telling : bindings.TellAbout run server now) :
    bindings.read? .testReportUrl =
      run.tests.map fun tests => absoluteUrl server run.url ++ tests.reportPath := by
  cases tested : run.tests with
  | none =>
      rw [Option.map_none, ← Option.not_isSome_iff_eq_none,
        telling.isSome_read?_of_isAboutTests rfl, tested]
      exact Bool.false_ne_true
  | some tests =>
      exact telling.read?_of_mem (by simp [Run.ownVariables, Run.testVariables, tested])

end Variables.TellAbout

/-- One slash stands between the address of the build server and a relative address, whatever
slashes the two have there, and it makes no difference to any variable how many these are. An
address with a scheme stays as it is, and so does every address when there is no build server. The
address is given under two names, and the report of tests is below it. -/
theorem addresses_are_joined_by_one_slash (run : Run) (server : Option String) (now : Instant) :
    let bindings := run.allVariables server now
    ∃ url, bindings.read? .url = some url ∧ bindings.read? .blueOceanUrl = some url ∧
      bindings.read? .testReportUrl = (run.tests.map fun tests => url ++ tests.reportPath) ∧
      ("://".toList <:+: run.url.toList ∨ (∀ base, server = some base → allBlank base = true) →
        url = run.url) ∧
      ∀ base, server = some base → allBlank base = false → ¬ "://".toList <:+: run.url.toList →
        (∃ front rest, IsLessFinalSlashes front base ∧ IsLessInitialSlashes rest run.url ∧
          url = front ++ "/" ++ rest) ∧
        ∀ final initial,
          { run with url := slashes initial ++ run.url }.allVariables
            (some (base ++ slashes final)) now = bindings := by
  intro bindings
  have telling : bindings.TellAbout run server now :=
    Variables.tellAbout_allVariables run server now
  refine ⟨_, telling.read?_url, telling.read?_blueOceanUrl, telling.read?_testReportUrl, ?_, ?_⟩
  · rintro (marked | unknown)
    · exact absoluteUrl_of_mark (contains_eq_true_iff.mpr marked) server
    · exact absoluteUrl_of_unknown unknown run.url
  · rintro base rfl visible unmarked
    have markless : hasSchemeMark run.url = false :=
      Bool.eq_false_iff.mpr (mt contains_eq_true_iff.mp unmarked)
    constructor
    · exact ⟨_, _, isLessFinalSlashes_withoutFinalSlashes base,
        isLessInitialSlashes_withoutInitialSlashes run.url,
        absoluteUrl_of_relative markless visible⟩
    · intro final initial
      exact Run.allVariables_congr_url (absoluteUrl_slashes markless visible final initial) now

/-- A run whose address starts at the root of its build server. -/
def rootedRun : Run where
  url := "/job/7/"
  tests := some { total := 4 }

theorem address_of_rooted_run :
    let server := "https://ci.local/jenkins//"
    let bindings := rootedRun.allVariables (some server) default
    allBlank server = false ∧ ¬ "://".toList <:+: rootedRun.url.toList ∧
      bindings.read? .url = some "https://ci.local/jenkins/job/7/" ∧
      bindings.read? .blueOceanUrl = some "https://ci.local/jenkins/job/7/" ∧
      bindings.read? .testReportUrl = some "https://ci.local/jenkins/job/7/testReport/" ∧
      { rootedRun with url := "job/7/" }.allVariables (some "https://ci.local/jenkins") default =
        bindings := by
  intro server bindings
  have visible : allBlank server = false := by decide
  have unmarked : ¬ "://".toList <:+: rootedRun.url.toList := by decide
  obtain ⟨url, found, same, report, _, _⟩ :=
    addresses_are_joined_by_one_slash rootedRun (some server) default
  have written : url = "https://ci.local/jenkins/job/7/" :=
    Option.some.inj (found.symm.trans (by decide +kernel))
  subst written
  refine ⟨visible, unmarked, found, same, report, ?_⟩
  obtain ⟨_, _, _, _, _, bare⟩ := addresses_are_joined_by_one_slash
    { rootedRun with url := "job/7/" } (some "https://ci.local/jenkins") default
  exact ((bare _ rfl (by decide) (by decide)).2 2 1).symm

example : absoluteUrl (some "//") "//job/7/" = "/job/7/" := by decide

end BuildNotices
