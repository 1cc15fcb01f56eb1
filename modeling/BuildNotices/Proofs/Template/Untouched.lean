import BuildNotices.Proofs.Template.Piece
/-!
Texts that resolution leaves alone.

The pass replaces something exactly when a complete reference stands anywhere in the text, be it
inside of another reference that came to nothing. Beginnings of references that are not completed
stay as they are, whatever the variables.
-/

namespace BuildNotices
namespace Template

open Text

/-- Where a reference stands in a text, the pass replaces one. It need not be the same: its
beginning may lie inside of the one that is replaced. -/
theorem exists_replaced_of_hasReference {chars : List Char} (written : HasReference chars) :
    ∃ reference, Piece.replaced reference ∈ pieces chars := by
  obtain ⟨reference, wellFormed, inside⟩ := written
  induction chars using pieces.induct with
  | case1 => cases List.infix_nil.mp inside
  | case2 c rest first after found ih =>
      rw [pieces_of_some found]
      exact ⟨first, List.mem_cons_self⟩
  | case3 c rest missing ih =>
      -- No reference starts here, so the known one starts further behind.
      rcases List.infix_cons_iff.mp inside with ⟨after, here⟩ | later
      · have found := reference?_text_append wellFormed after
        rw [here, missing] at found
        cases found
      · obtain ⟨other, member⟩ := ih later
        rw [pieces_of_none missing]
        exact ⟨other, List.mem_cons_of_mem _ member⟩

/-! ### References without a value -/

theorem expand_empty (reference : Reference) : expand .empty reference = "" := by
  have silent (name : String) : Variables.value .empty name = "" := rfl
  unfold expand
  simp only [silent, Html.escape_empty, ite_self]

theorem Piece.length_resolved_empty_le (piece : Piece) :
    (piece.resolved .empty).length ≤ piece.source.length := by
  cases piece with
  | kept c => exact Nat.le_refl 1
  | replaced reference =>
      rw [resolved, expand_empty]
      exact Nat.zero_le _

theorem Piece.length_resolved_empty_lt (reference : Reference) :
    ((Piece.replaced reference).resolved .empty).length <
      (Piece.replaced reference).source.length := by
  rw [resolved, expand_empty]
  exact Nat.zero_lt_succ _

/-- A text with references becomes shorter when none of them has a value. -/
theorem length_resolveChars_empty_lt {chars : List Char} (written : HasReference chars) :
    (resolveChars .empty chars).length < chars.length := by
  obtain ⟨reference, member⟩ := exists_replaced_of_hasReference written
  have shorter := List.sum_lt_sum
    (fun piece : Piece => (piece.resolved .empty).length) (fun piece => piece.source.length)
    (fun piece _ => piece.length_resolved_empty_le)
    ⟨_, member, Piece.length_resolved_empty_lt reference⟩
  rw [← List.length_flatMap, ← List.length_flatMap, flatMap_source_pieces,
    ← resolveChars_eq_flatMap] at shorter
  exact shorter

/-- Without variables a template is resolved to itself exactly when it has no reference, and then
it is resolved to itself with any variables. This holds of every template in which no reference is
opened. -/
theorem only_references_are_replaced :
    (∀ template : String,
      resolve template .empty = template ↔ ¬ HasReference template.toList) ∧
    (∀ template : String, ¬ HasReference template.toList →
      ∀ bindings : Variables, resolve template bindings = template) ∧
    (∀ template : String, contains template "$\x7b" = false →
      ¬ HasReference template.toList) := by
  refine ⟨?_, ?_, ?_⟩
  · intro template
    constructor
    · intro same written
      have shorter := length_resolveChars_empty_lt written
      have whole := congrArg (fun text => text.toList.length) same
      simp only [resolve, String.toList_ofList] at whole
      omega
    · intro plain
      exact resolve_eq_self .empty plain
  · intro template plain bindings
    exact resolve_eq_self bindings plain
  · intro template unopened
    exact not_hasReference_of_unopened unopened

/-- Four beginnings come to nothing, and a reference stands behind one of them. -/
theorem beginnings_of_references_stay :
    let near := "$\x7b\x7d $\x7b1A\x7d $\x7b A\x7d $$\x7bA"
    let buried := "$\x7bA $\x7bB\x7d"
    ¬ HasReference near.toList ∧ (∀ bindings : Variables, resolve near bindings = near) ∧
      HasReference buried.toList ∧ resolve buried .empty ≠ buried ∧
      contains "$ 5" "$\x7b" = false ∧ ¬ HasReference "$ 5".toList := by
  intro near buried
  obtain ⟨empty, every, unopened⟩ := only_references_are_replaced
  have plain : ¬ HasReference near.toList := (empty near).mp (by decide +kernel)
  have written : Reference.WellFormed ⟨"B".toList, []⟩ :=
    ⟨⟨'B', [], rfl, rfl, List.forall_mem_nil _⟩, Or.inl rfl⟩
  have inside : HasReference buried.toList := ⟨_, written, "$\x7bA ".toList, [], by decide⟩
  exact ⟨plain, every near plain, inside, fun same => (empty buried).mp same inside, rfl,
    unopened "$ 5" rfl⟩

example :
    resolve "$\x7b1\x7d $\x7bA $\x7bA,$\x7bB\x7d\x7d" (Dictionary.empty.insert "A" "text") =
      "$\x7b1\x7d $\x7bA text\x7d" := by
  decide +kernel

end Template
end BuildNotices
