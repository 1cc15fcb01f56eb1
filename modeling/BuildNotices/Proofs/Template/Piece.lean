import BuildNotices.Proofs.Template.Resolution
import Mathlib.Algebra.Order.BigOperators.Group.List
import Mathlib.Algebra.Order.Group.Nat
/-!
Templates in pieces.

The pass over a template takes it apart, whatever the variables are: every piece is a character
that stays or a reference that is replaced. So a template is resolved piece by piece, and
variables to which it does not refer have no part in the result.
-/

namespace BuildNotices
namespace Template

open Text

inductive Piece where
  | kept (c : Char)
  | replaced (reference : Reference)
deriving Repr, DecidableEq

namespace Piece

def source : Piece → List Char
  | .kept c => [c]
  | .replaced reference => reference.text

def resolved (bindings : Variables) : Piece → List Char
  | .kept c => [c]
  | .replaced reference => (expand bindings reference).toList

def name? : Piece → Option String
  | .kept _ => none
  | .replaced reference => some (String.ofList reference.name)

theorem name?_eq_some_iff {piece : Piece} {name : String} :
    piece.name? = some name ↔
      ∃ reference : Reference, piece = .replaced reference ∧
        String.ofList reference.name = name := by
  cases piece with
  | kept c => simp [name?]
  | replaced reference => simp [name?]

end Piece

def pieces (chars : List Char) : List Piece :=
  match chars with
  | [] => []
  | c :: rest =>
      match _found : reference? (c :: rest) with
      | some (reference, after) => .replaced reference :: pieces after
      | none => .kept c :: pieces rest
termination_by chars.length
decreasing_by
  · exact reference?_shortens _found
  · simp

@[simp]
theorem pieces_nil : pieces [] = [] := by
  rw [pieces]

theorem pieces_of_some {chars after : List Char} {reference : Reference}
    (found : reference? chars = some (reference, after)) :
    pieces chars = .replaced reference :: pieces after := by
  cases chars with
  | nil => simp [reference?] at found
  | cons c rest =>
      rw [pieces]
      split
      next other behind same =>
        rw [found] at same
        cases same
        rfl
      next missing =>
        rw [found] at missing
        cases missing

theorem pieces_of_none {c : Char} {rest : List Char} (missing : reference? (c :: rest) = none) :
    pieces (c :: rest) = .kept c :: pieces rest := by
  rw [pieces]
  split
  next reference after found =>
    rw [missing] at found
    cases found
  next => rfl

/-- The pieces of a text put together are the text. -/
theorem flatMap_source_pieces (chars : List Char) :
    (pieces chars).flatMap Piece.source = chars := by
  induction chars using pieces.induct with
  | case1 => rw [pieces_nil, List.flatMap_nil]
  | case2 c rest reference after found ih =>
      obtain ⟨_, split⟩ := reference?_eq_some_iff.mp found
      rw [pieces_of_some found, List.flatMap_cons, ih, split]
      rfl
  | case3 c rest missing ih =>
      rw [pieces_of_none missing, List.flatMap_cons, ih]
      rfl

/-- A text is resolved piece by piece. -/
theorem resolveChars_eq_flatMap (bindings : Variables) (chars : List Char) :
    resolveChars bindings chars = (pieces chars).flatMap (Piece.resolved bindings) := by
  induction chars using pieces.induct with
  | case1 => rw [resolveChars_nil, pieces_nil, List.flatMap_nil]
  | case2 c rest reference after found ih =>
      rw [resolveChars_of_some bindings found, pieces_of_some found, List.flatMap_cons, ih]
      rfl
  | case3 c rest missing ih =>
      rw [resolveChars_of_none bindings missing, pieces_of_none missing, List.flatMap_cons, ih]
      rfl

theorem toList_resolve (bindings : Variables) (template : String) :
    (resolve template bindings).toList =
      (pieces template.toList).flatMap (Piece.resolved bindings) := by
  rw [resolve, String.toList_ofList, resolveChars_eq_flatMap]

/-! ### Names to which a template refers -/

/-- One of the references that are replaced in a template has this name. -/
def RefersTo (template name : String) : Prop :=
  ∃ piece ∈ pieces template.toList, piece.name? = some name

instance (template name : String) : Decidable (RefersTo template name) :=
  inferInstanceAs (Decidable (∃ piece ∈ pieces template.toList, piece.name? = some name))

section Agreement

variable {first second : Variables} {hidden : String → Prop}

/-- The variable for the commit message has a second name, which counts as well. -/
theorem expand_congr
    (agree : ∀ name, ¬ hidden name → first.value name = second.value name)
    (shown : ¬ hidden ReservedName.commitMessageText.text) {reference : Reference}
    (visible : ¬ hidden (String.ofList reference.name)) :
    expand first reference = expand second reference := by
  have own := agree _ visible
  have message := agree _ shown
  unfold expand
  by_cases commit : String.ofList reference.name = ReservedName.commitMessage.text
  · rw [commit] at own
    simp only [commit, if_true, own, message]
  · simp only [if_neg commit, own]

/-- Variables that differ only in names to which a template does not refer give the same. -/
theorem resolve_congr
    (agree : ∀ name, ¬ hidden name → first.value name = second.value name)
    (shown : ¬ hidden ReservedName.commitMessageText.text) {template : String}
    (unused : ∀ name, hidden name → ¬ RefersTo template name) :
    resolve template first = resolve template second := by
  rw [← String.toList_inj, toList_resolve, toList_resolve]
  refine List.flatMap_congr ?_
  intro piece member
  cases piece with
  | kept c => rfl
  | replaced reference =>
      have visible : ¬ hidden (String.ofList reference.name) := by
        intro concealed
        exact unused _ concealed ⟨_, member, rfl⟩
      simp only [Piece.resolved, expand_congr agree shown visible]

theorem length_expand_lt {reference : Reference}
    (ordinary : String.ofList reference.name ≠ ReservedName.commitMessage.text)
    (longer : (first.value (String.ofList reference.name)).length <
      (second.value (String.ofList reference.name)).length)
    (longerEscaped : (Html.escape (first.value (String.ofList reference.name))).length <
      (Html.escape (second.value (String.ofList reference.name))).length) :
    (expand first reference).length < (expand second reference).length := by
  unfold expand
  rw [if_neg ordinary, if_neg ordinary]
  by_cases escaped : escapeFlag reference.modifiers = some true
  · rw [if_pos escaped, if_pos escaped]
    exact longerEscaped
  · rw [if_neg escaped, if_neg escaped]
    exact longer

/-- Where the value of one name grows, in both forms, the resolved text grows with every
reference to that name and stays the same without one. -/
theorem resolve_eq_iff_of_longer {name : String}
    (agree : ∀ other, other ≠ name → first.value other = second.value other)
    (ordinary : name ≠ ReservedName.commitMessage.text)
    (shown : ReservedName.commitMessageText.text ≠ name)
    (longer : (first.value name).length < (second.value name).length)
    (longerEscaped :
      (Html.escape (first.value name)).length < (Html.escape (second.value name)).length)
    (template : String) :
    resolve template first = resolve template second ↔ ¬ RefersTo template name := by
  constructor
  · rintro same ⟨piece, member, found⟩
    obtain ⟨reference, rfl, rfl⟩ := Piece.name?_eq_some_iff.mp found
    have below : ∀ piece ∈ pieces template.toList,
        (piece.resolved first).length ≤ (piece.resolved second).length := by
      intro piece _
      cases piece with
      | kept c => exact Nat.le_refl 1
      | replaced other =>
          by_cases named : String.ofList other.name = String.ofList reference.name
          · rw [← named] at ordinary longer longerEscaped
            exact Nat.le_of_lt (length_expand_lt ordinary longer longerEscaped)
          · rw [Piece.resolved, Piece.resolved, expand_congr agree shown named]
    have above : ((Piece.replaced reference).resolved first).length <
        ((Piece.replaced reference).resolved second).length :=
      length_expand_lt ordinary longer longerEscaped
    have grown := List.sum_lt_sum _ _ below ⟨_, member, above⟩
    have lengths := congrArg String.length same
    simp only [← String.length_toList, toList_resolve, List.length_flatMap] at lengths
    omega
  · intro unused
    refine resolve_congr agree shown ?_
    rintro other rfl
    exact unused

end Agreement

end Template
end BuildNotices
