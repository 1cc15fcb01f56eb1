import BuildNotices.Proofs.Template.Piece
/-!
Blank texts out of templates.

Escaping never makes a blank of anything, nor anything of a blank. So a resolved text is blank
exactly when the template keeps nothing but blanks and refers to nothing but blank values.
-/

namespace BuildNotices

open Text

theorem Text.Html.all_isBlank_escapeChar (c : Char) :
    (escapeChar c).all isBlank = isBlank c := by
  unfold escapeChar
  split <;> first
    | decide
    | rw [List.all_cons, List.all_nil, Bool.and_true]

theorem Text.Html.allBlank_escape (text : String) : allBlank (escape text) = allBlank text := by
  rw [allBlank, escape, String.toList_ofList, List.all_flatMap, allBlank]
  simp only [all_isBlank_escapeChar]

namespace Template

/-- The variable that a reference reads: the commit message has two forms. -/
def Reference.variable (reference : Reference) : String :=
  if String.ofList reference.name = ReservedName.commitMessage.text ∧
      escapeFlag reference.modifiers = some false then
    ReservedName.commitMessageText.text
  else
    String.ofList reference.name

theorem allBlank_expand (bindings : Variables) (reference : Reference) :
    allBlank (expand bindings reference) = allBlank (bindings.value reference.variable) := by
  unfold expand Reference.variable
  by_cases commit : String.ofList reference.name = ReservedName.commitMessage.text
  · by_cases plain : escapeFlag reference.modifiers = some false
    · rw [if_pos commit, if_pos plain, if_pos ⟨commit, plain⟩]
    · rw [if_pos commit, if_neg plain, if_neg fun both => plain both.2, commit]
  · have other : ¬ (String.ofList reference.name = ReservedName.commitMessage.text ∧
        escapeFlag reference.modifiers = some false) := fun both => commit both.1
    rw [if_neg commit, if_neg other]
    by_cases escaped : escapeFlag reference.modifiers = some true
    · rw [if_pos escaped, Html.allBlank_escape]
    · rw [if_neg escaped]

def Piece.isBlank (bindings : Variables) : Piece → Bool
  | .kept c => Text.isBlank c
  | .replaced reference => allBlank (bindings.value reference.variable)

theorem Piece.all_isBlank_resolved (bindings : Variables) (piece : Piece) :
    (piece.resolved bindings).all Text.isBlank = piece.isBlank bindings := by
  cases piece with
  | kept c => exact Bool.and_true _
  | replaced reference => exact allBlank_expand bindings reference

theorem allBlank_resolve (bindings : Variables) (template : String) :
    allBlank (resolve template bindings) =
      (pieces template.toList).all (Piece.isBlank bindings) := by
  rw [allBlank, toList_resolve, List.all_flatMap]
  simp only [Piece.all_isBlank_resolved]

end Template
end BuildNotices
