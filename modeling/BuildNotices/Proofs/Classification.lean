import BuildNotices.Classification
import Mathlib.Data.List.Induction
/-!
Categories along the history of a job.

The runs of a job are listed oldest first, and the history of a run is the chain of the
runs before it. Runs that built nothing are invisible to every other run: only the
nearest earlier run that is none of them decides whether a success is an ordinary one.
-/

namespace BuildNotices

/-- A run that was aborted or not built. -/
def Run.BuiltNothing (run : Run) : Prop :=
  run.result = some .aborted ∨ run.result = some .notBuilt

theorem Run.isPassedOver_eq_true_iff (run : Run) :
    run.isPassedOver = true ↔ run.BuiltNothing := by
  unfold Run.isPassedOver Run.BuiltNothing
  cases run.result with
  | none => simp
  | some result => cases result <;> simp [Result.builtNothing]

/-! ### The history of a run -/

theorem History.ofRuns?_append_singleton (before : List Run) (run : Run) :
    History.ofRuns? (before ++ [run]) = some ⟨run, before.reverse⟩ := by
  unfold History.ofRuns?
  rw [List.foldl_append]
  simp only [List.foldl_cons, List.foldl_nil, Option.some.injEq]
  induction before using List.reverseRecOn generalizing run with
  | nil => rfl
  | append_singleton front last ih =>
      rw [List.foldl_append, List.foldl_cons, List.foldl_nil, ih last, List.reverse_concat]
      rfl

/-- The category of the run at a position, from the history that ends with it. -/
def categoryAt? (runs : List Run) (position : Nat) : Option (Except NoticeError Category) :=
  (History.ofRuns? (runs.take (position + 1))).map History.classify

theorem categoryAt?_append_cons (before after : List Run) (run : Run) :
    categoryAt? (before ++ run :: after) before.length =
      some (History.classify ⟨run, before.reverse⟩) := by
  have upTo : (before ++ run :: after).take (before.length + 1) = before ++ [run] := by
    rw [List.take_length_add_append, List.take_succ_cons, List.take_zero]
  rw [categoryAt?, upTo, History.ofRuns?_append_singleton, Option.map_some]

theorem categoryAt?_of_getElem? {runs : List Run} {position : Nat} {run : Run}
    (found : runs[position]? = some run) :
    categoryAt? runs position =
      some (History.classify ⟨run, (runs.take position).reverse⟩) := by
  obtain ⟨inside, same⟩ := List.getElem?_eq_some_iff.mp found
  have upTo : runs.take (position + 1) = runs.take position ++ [run] := by
    rw [List.take_succ_eq_append_getElem inside, same]
  rw [categoryAt?, upTo, History.ofRuns?_append_singleton, Option.map_some]

/-! ### The nearest earlier run that counts -/

theorem History.previousResult_eq_success_iff (run : Run) (before : List Run) :
    (⟨run, before.reverse⟩ : History).previousResult = some .success ↔
      ∃ front source idle, before = front ++ source :: idle ∧
        source.result = some .success ∧ ∀ other ∈ idle, other.BuiltNothing := by
  unfold History.previousResult
  rw [Option.join_eq_some_iff, Option.map_eq_some_iff]
  constructor
  · rintro ⟨source, found, succeeded⟩
    obtain ⟨_, skipped, rest, split, idle⟩ := List.find?_eq_some_iff_append.mp found
    refine ⟨rest.reverse, source, skipped.reverse, ?_, succeeded, ?_⟩
    · have mirrored := congrArg List.reverse split
      simpa using mirrored
    · intro other member
      rw [← Run.isPassedOver_eq_true_iff]
      simpa using idle other (List.mem_reverse.mp member)
  · rintro ⟨front, source, idle, split, succeeded, nothing⟩
    refine ⟨source, List.find?_eq_some_iff_append.mpr ⟨?_, idle.reverse, front.reverse, ?_, ?_⟩,
      succeeded⟩
    · simp [Run.isPassedOver, succeeded, Result.builtNothing]
    · simp [split]
    · intro other member
      have passed := nothing other (List.mem_reverse.mp member)
      rw [← Run.isPassedOver_eq_true_iff] at passed
      simp [passed]

theorem History.previousResult_eq_filter (run : Run) (before : List Run) :
    (⟨run, before.reverse⟩ : History).previousResult =
      ((before.filter fun other => !other.isPassedOver).reverse.head?.map Run.result).join := by
  rw [History.previousResult, ← List.filter_reverse, List.head?_filter]

/-- Inserting and deleting runs that built nothing, anywhere and any number of times. -/
inductive IdleEdits : List Run → List Run → Prop where
  | none (runs : List Run) : IdleEdits runs runs
  | insert {runs : List Run} (front back : List Run) {idle : Run} (nothing : idle.BuiltNothing) :
      IdleEdits runs (front ++ back) → IdleEdits runs (front ++ idle :: back)
  | delete {runs : List Run} (front back : List Run) {idle : Run} (nothing : idle.BuiltNothing) :
      IdleEdits runs (front ++ idle :: back) → IdleEdits runs (front ++ back)

private theorem filter_insert_idle (front back : List Run) {idle : Run}
    (nothing : idle.BuiltNothing) :
    (front ++ idle :: back).filter (fun run => !run.isPassedOver) =
      (front ++ back).filter fun run => !run.isPassedOver := by
  have passed : idle.isPassedOver = true := (Run.isPassedOver_eq_true_iff idle).mpr nothing
  rw [List.filter_append, List.filter_append, List.filter_cons_of_neg (by simp [passed])]

theorem IdleEdits.filter_eq {first second : List Run} (edits : IdleEdits first second) :
    (first.filter fun run => !run.isPassedOver) =
      second.filter fun run => !run.isPassedOver := by
  induction edits with
  | none => rfl
  | insert front back nothing _ ih =>
      rw [ih, filter_insert_idle front back nothing]
  | delete front back nothing _ ih =>
      rw [ih, filter_insert_idle front back nothing]

theorem IdleEdits.classify_eq {first second : List Run} (edits : IdleEdits first second)
    (run : Run) :
    History.classify ⟨run, first.reverse⟩ = History.classify ⟨run, second.reverse⟩ := by
  unfold History.classify
  rw [History.previousResult_eq_filter, History.previousResult_eq_filter, edits.filter_eq]

/-! ### Categories by position -/

def Ended (runs : List Run) (position : Nat) (result : Result) : Prop :=
  ∃ run, runs[position]? = some run ∧ run.result = some result

def InProgress (runs : List Run) (position : Nat) : Prop :=
  ∃ run, runs[position]? = some run ∧ run.result = none

/-- The nearest run before a position that was neither aborted nor not built exists and
ended in a success. -/
def FollowsSuccess (runs : List Run) (position : Nat) : Prop :=
  ∃ earlier < position, Ended runs earlier .success ∧
    ∀ between, earlier < between → between < position →
      Ended runs between .aborted ∨ Ended runs between .notBuilt

/-- The run at a position did not end well, or has not ended. -/
def Disturbed (runs : List Run) (position : Nat) : Prop :=
  Ended runs position .failure ∨ Ended runs position .unstable ∨
    Ended runs position .unknown ∨ InProgress runs position

theorem builtNothing_of_getElem? {runs : List Run} {position : Nat} {run : Run}
    (found : runs[position]? = some run)
    (ended : Ended runs position .aborted ∨ Ended runs position .notBuilt) :
    run.BuiltNothing := by
  unfold Run.BuiltNothing
  rcases ended with ⟨other, same, result⟩ | ⟨other, same, result⟩
  · rw [found] at same
    cases same
    exact Or.inl result
  · rw [found] at same
    cases same
    exact Or.inr result

/-- The search through the history finds the nearest earlier run that counts. -/
theorem previousResult_eq_success_iff_followsSuccess {runs : List Run} {position : Nat}
    (inside : position < runs.length) (run : Run) :
    (⟨run, (runs.take position).reverse⟩ : History).previousResult = some .success ↔
      FollowsSuccess runs position := by
  have earlierRun (index : Nat) (before : index < position) :
      (runs.take position)[index]? = runs[index]? := List.getElem?_take_of_lt before
  have lengthEq : (runs.take position).length = position :=
    List.length_take_of_le (Nat.le_of_lt inside)
  rw [History.previousResult_eq_success_iff]
  constructor
  · rintro ⟨front, source, idle, split, succeeded, nothing⟩
    -- What the search skipped lies between the run it found and the position.
    rw [split] at earlierRun lengthEq
    simp only [List.length_append, List.length_cons] at lengthEq
    refine ⟨front.length, by omega, ⟨source, ?_, succeeded⟩, ?_⟩
    · rw [← earlierRun front.length (by omega)]
      simp
    · intro between after before
      obtain ⟨offset, rfl⟩ := Nat.exists_eq_add_of_lt after
      have within : offset < idle.length := by omega
      have placed : runs[front.length + offset + 1]? = some idle[offset] := by
        rw [← earlierRun _ before, Nat.add_assoc, List.getElem?_append_right (by omega),
          Nat.add_sub_cancel_left, List.getElem?_cons_succ, List.getElem?_eq_getElem within]
      rcases nothing idle[offset] (List.getElem_mem within) with aborted | notBuilt
      · exact Or.inl ⟨idle[offset], placed, aborted⟩
      · exact Or.inr ⟨idle[offset], placed, notBuilt⟩
  · rintro ⟨earlier, before, ⟨source, found, succeeded⟩, between⟩
    rw [← earlierRun earlier before] at found
    obtain ⟨reached, same⟩ := List.getElem?_eq_some_iff.mp found
    refine ⟨(runs.take position).take earlier, source, (runs.take position).drop (earlier + 1),
      ?_, succeeded, ?_⟩
    · rw [← same, ← List.drop_eq_getElem_cons reached, List.take_append_drop]
    · intro other member
      obtain ⟨offset, within, placed⟩ := List.mem_iff_getElem.mp member
      rw [List.length_drop, lengthEq] at within
      rw [List.getElem_drop] at placed
      have located : runs[earlier + 1 + offset]? = some other := by
        rw [← earlierRun _ (by omega), List.getElem?_eq_getElem (by omega), placed]
      exact builtNothing_of_getElem? located (between _ (by omega) (by omega))

/-- The category of the run at a position, read off its own result and the nearest
earlier run that counts. -/
theorem classify_eq_of_getElem? {runs : List Run} {position : Nat} {run : Run}
    (found : runs[position]? = some run) [Decidable (FollowsSuccess runs position)] :
    categoryAt? runs position = some (match run.result with
      | none => .error (.unclassifiable "in progress")
      | some .unknown => .error (.unclassifiable Result.unknown.name)
      | some .aborted => .ok .aborted
      | some .failure => .ok .failure
      | some .notBuilt => .ok .notBuilt
      | some .unstable => .ok .unstable
      | some .success =>
          .ok (if FollowsSuccess runs position then .success else .backToNormal)) := by
  obtain ⟨inside, _⟩ := List.getElem?_eq_some_iff.mp found
  rw [categoryAt?_of_getElem? found, Option.some.injEq]
  unfold History.classify
  cases run.result with
  | none => rfl
  | some result =>
      cases result with
      | success =>
          simp only [classify, previousResult_eq_success_iff_followsSuccess inside]
      | _ => rfl

theorem categoryAt?_eq_backToNormal_iff {runs : List Run} {position : Nat} {run : Run}
    (found : runs[position]? = some run) :
    categoryAt? runs position = some (.ok .backToNormal) ↔
      run.result = some .success ∧ ¬ FollowsSuccess runs position := by
  classical
  rw [classify_eq_of_getElem? found]
  cases run.result with
  | none => simp
  | some result =>
      by_cases follows : FollowsSuccess runs position
      · cases result <;> simp [follows]
      · cases result <;> simp [follows]

/-! ### Between two returns to normal -/

theorem ended_of_not_disturbed {runs : List Run} {position : Nat}
    (inside : position < runs.length) (calm : ¬ Disturbed runs position) :
    Ended runs position .success ∨ Ended runs position .aborted ∨
      Ended runs position .notBuilt := by
  have found : runs[position]? = some runs[position] := List.getElem?_eq_getElem inside
  cases ended : runs[position].result with
  | none =>
      exact absurd (Or.inr (Or.inr (Or.inr ⟨_, found, ended⟩))) calm
  | some result =>
      cases result with
      | success => exact Or.inl ⟨_, found, ended⟩
      | aborted => exact Or.inr (Or.inl ⟨_, found, ended⟩)
      | notBuilt => exact Or.inr (Or.inr ⟨_, found, ended⟩)
      | failure => exact absurd (Or.inl ⟨_, found, ended⟩) calm
      | unstable => exact absurd (Or.inr (Or.inl ⟨_, found, ended⟩)) calm
      | unknown => exact absurd (Or.inr (Or.inr (Or.inl ⟨_, found, ended⟩))) calm

/-- As long as nothing goes wrong after a success, every later run follows a success. -/
theorem followsSuccess_of_calm {runs : List Run} {first : Nat}
    (success : Ended runs first .success) (distance : Nat)
    (inside : first + distance < runs.length)
    (calm : ∀ between, first < between → between < first + distance + 1 →
      ¬ Disturbed runs between) :
    FollowsSuccess runs (first + distance + 1) := by
  induction distance with
  | zero =>
      refine ⟨first, by omega, success, ?_⟩
      intro between after before
      omega
  | succ distance ih =>
      have last := ended_of_not_disturbed inside (calm _ (by omega) (by omega))
      -- The last run is a success itself, or it leaves the one before it in sight.
      rcases last with again | idle
      · refine ⟨_, Nat.lt_succ_self _, again, ?_⟩
        intro between after before
        omega
      · have inner := ih (by omega) (fun between after before =>
          calm between after (by omega))
        obtain ⟨earlier, before, succeeded, quiet⟩ := inner
        refine ⟨earlier, by omega, succeeded, ?_⟩
        intro between after below
        rcases Nat.lt_succ_iff_lt_or_eq.mp below with inside | same
        · exact quiet between after inside
        · rw [same]
          exact idle

theorem disturbed_between {runs : List Run} {first last : Nat} (earlier : first < last)
    (inside : last < runs.length)
    (firstNormal : categoryAt? runs first = some (.ok .backToNormal))
    (lastNormal : categoryAt? runs last = some (.ok .backToNormal)) :
    ∃ between, first < between ∧ between < last ∧ Disturbed runs between := by
  have firstFound : runs[first]? = some runs[first] := List.getElem?_eq_getElem (by omega)
  have lastFound : runs[last]? = some runs[last] := List.getElem?_eq_getElem inside
  have success := ((categoryAt?_eq_backToNormal_iff firstFound).mp firstNormal).1
  have alone := ((categoryAt?_eq_backToNormal_iff lastFound).mp lastNormal).2
  by_contra calm
  obtain ⟨distance, rfl⟩ := Nat.exists_eq_add_of_lt earlier
  apply alone
  refine followsSuccess_of_calm ⟨_, firstFound, success⟩ distance (by omega) ?_
  intro between after before disturbed
  exact calm ⟨between, after, before, disturbed⟩

/-! ### The categories of a job -/

/-- What the categories of a job say about its runs. A run without a category is in
progress or has an unknown result; only a success looks back, to the nearest earlier run
that built something. So runs that built nothing can come and go, and a job does not
return to normal twice without having left it. -/
theorem categories_along_history (runs : List Run) :
    (∀ position run, runs[position]? = some run →
      ((∃ error, categoryAt? runs position = some (.error error)) ↔
        run.result = none ∨ run.result = some .unknown) ∧
      (∀ error, categoryAt? runs position = some (.error error) →
        ∃ result, error = .unclassifiable result) ∧
      (categoryAt? runs position = some (.ok .aborted) ↔ run.result = some .aborted) ∧
      (categoryAt? runs position = some (.ok .failure) ↔ run.result = some .failure) ∧
      (categoryAt? runs position = some (.ok .notBuilt) ↔ run.result = some .notBuilt) ∧
      (categoryAt? runs position = some (.ok .unstable) ↔ run.result = some .unstable) ∧
      (categoryAt? runs position = some (.ok .success) ↔
        run.result = some .success ∧ FollowsSuccess runs position) ∧
      (categoryAt? runs position = some (.ok .backToNormal) ↔
        run.result = some .success ∧ ¬ FollowsSuccess runs position)) ∧
    (∀ before before' run after after', IdleEdits before before' →
      categoryAt? (before ++ run :: after) before.length =
        categoryAt? (before' ++ run :: after') before'.length) ∧
    (∀ first last, first < last → last < runs.length →
      categoryAt? runs first = some (.ok .backToNormal) →
      categoryAt? runs last = some (.ok .backToNormal) →
      ∃ between, first < between ∧ between < last ∧ Disturbed runs between) := by
  classical
  refine ⟨?_, ?_, ?_⟩
  · intro position run found
    rw [classify_eq_of_getElem? found]
    cases run.result with
    | none => simp
    | some result =>
        by_cases follows : FollowsSuccess runs position
        · cases result <;> simp [follows]
        · cases result <;> simp [follows]
  · intro before before' run after after' edits
    rw [categoryAt?_append_cons, categoryAt?_append_cons, edits.classify_eq run]
  · intro first last earlier inside firstNormal lastNormal
    exact disturbed_between earlier inside firstNormal lastNormal

end BuildNotices
