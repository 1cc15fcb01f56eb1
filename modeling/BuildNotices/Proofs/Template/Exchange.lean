import BuildNotices.Proofs.Template.Resolution
/-!
References in place of each other.

Two references to one name whose modifiers say the same about escaping can stand for each other
anywhere in a template. Where the text in front of them has opened a modifier list, the pass does
not read them as references at all: they end this list, and their own modifiers are its last ones.
-/

namespace BuildNotices
namespace Template

open Text

/-! ### Modifiers behind other text -/

theorem AreModifiers.append {first second : List Char} (listed : AreModifiers first)
    (listed' : AreModifiers second) : AreModifiers (first ++ second) := by
  rcases listed with rfl | ⟨list, rfl, closed⟩
  · exact listed'
  · refine Or.inr ⟨list ++ second, rfl, fun member => ?_⟩
    rcases List.mem_append.mp member with front | back
    · exact closed front
    · exact listed'.not_mem back

/-- Modifiers start with a comma, so the text in front of them cannot change what they say. -/
theorem AreModifiers.escapeFlag_append {modifiers : List Char} (listed : AreModifiers modifiers)
    (front : List Char) :
    escapeFlag (front ++ modifiers) = (escapeFlag modifiers).or (escapeFlag front) := by
  rcases listed with rfl | ⟨list, rfl, _⟩
  · rw [List.append_nil]
    rfl
  · have alone := Template.escapeFlag_append [] list
    rw [List.nil_append, show escapeFlag [] = none from rfl, Option.or_none] at alone
    rw [Template.escapeFlag_append, alone]

/-! ### References inside of an open list -/

/-- A text is the beginning of a reference up to a place in its modifiers. -/
def OpensList (front : List Char) : Prop :=
  ∃ name list, IsName name ∧ '\x7d' ∉ list ∧ front = '$' :: '\x7b' :: (name ++ ',' :: list)

/-- The text of a reference ends a list of modifiers that was opened in front of it. -/
def Reference.takenIn (name list : List Char) (reference : Reference) : Reference :=
  ⟨name, ',' :: list ++ reference.unclosed⟩

theorem Reference.text_takenIn (name list : List Char) (reference : Reference) :
    (reference.takenIn name list).text = '$' :: '\x7b' :: (name ++ ',' :: list) ++ reference.text := by
  rw [reference.text_eq_unclosed, text_eq_unclosed]
  simp [takenIn, unclosed]

theorem Reference.WellFormed.not_mem_unclosed {reference : Reference}
    (written : reference.WellFormed) : '\x7d' ∉ reference.unclosed := by
  have inName : '\x7d' ∉ reference.name := fun member =>
    Bool.false_ne_true (written.name.isNameChar _ member)
  simp [Reference.unclosed, inName, written.modifiers.not_mem]

theorem Reference.WellFormed.takenIn {reference : Reference} (written : reference.WellFormed)
    {name list : List Char} (named : IsName name) (unclosed : '\x7d' ∉ list) :
    (reference.takenIn name list).WellFormed := by
  refine ⟨named, Or.inr ⟨list ++ reference.unclosed, rfl, fun member => ?_⟩⟩
  rcases List.mem_append.mp member with front | back
  · exact unclosed front
  · exact written.not_mem_unclosed back

theorem reference?_name_append_eq_none {name : List Char} (named : IsName name) (stop : Char)
    (rest : List Char) (refused : isNameChar stop = false) (closes : stop ≠ '\x7d')
    (lists : stop ≠ ',') : reference? ('$' :: '\x7b' :: (name ++ stop :: rest)) = none := by
  obtain ⟨_, behind⟩ := span_append Template.isNameChar rest named.isNameChar refused
  rw [reference?]
  simp only [behind, List.head?_cons, Option.some.injEq, closes, lists, decide_false,
    Bool.or_self, Bool.and_false]
  exact if_neg Bool.false_ne_true

/-- No reference starts in front of another one and ends behind it, but where a list of modifiers
is open. -/
theorem reference?_append_text_eq_none {front : List Char} (begun : front ≠ [])
    (missing : reference? front = none) (unlisted : ¬ OpensList front)
    (reference : Reference) (after : List Char) :
    reference? (front ++ (reference.text ++ after)) = none := by
  by_cases isOpen : IsOpen front
  · cases isOpen with
    | sign => rfl
    | brace => rfl
    | name named =>
        exact reference?_name_append_eq_none named '$' _ rfl (by decide) (by decide)
    | modifiers named unclosed => exact absurd ⟨_, _, named, unclosed, rfl⟩ unlisted
  · exact reference?_append_eq_none isOpen begun missing

/-! ### Exchange -/

section Exchange

variable (bindings : Variables) {first second : Reference}

theorem expand_congr_flag (same : first.name = second.name)
    (flag : escapeFlag first.modifiers = escapeFlag second.modifiers) :
    expand bindings first = expand bindings second := by
  unfold expand
  rw [same, flag]

variable (written : first.WellFormed) (written' : second.WellFormed)
  (same : first.name = second.name)
  (flag : escapeFlag first.modifiers = escapeFlag second.modifiers)

include written written' same flag

theorem escapeFlag_takenIn (name list : List Char) :
    escapeFlag (first.takenIn name list).modifiers =
      escapeFlag (second.takenIn name list).modifiers := by
  have split (reference : Reference) : (reference.takenIn name list).modifiers =
      (',' :: list ++ '$' :: '\x7b' :: reference.name) ++ reference.modifiers := by
    simp [Reference.takenIn, Reference.unclosed]
  rw [split, split, written.modifiers.escapeFlag_append, written'.modifiers.escapeFlag_append,
    same, flag]

/-- A reference can be exchanged for another one that gives the same, whatever stands around. -/
theorem resolveChars_exchange (before after : List Char) :
    resolveChars bindings (before ++ (first.text ++ after)) =
      resolveChars bindings (before ++ (second.text ++ after)) := by
  -- By the cases of the pass over the text in front.
  induction before using resolveChars.induct with
  | case1 =>
      rw [List.nil_append, List.nil_append,
        resolveChars_of_some bindings (reference?_text_append written after),
        resolveChars_of_some bindings (reference?_text_append written' after),
        expand_congr_flag bindings same flag]
  | case2 c rest reference behind found ih =>
      obtain ⟨earlier, split⟩ := reference?_eq_some_iff.mp found
      rw [split, List.append_assoc, List.append_assoc,
        resolveChars_of_some bindings (reference?_text_append earlier _),
        resolveChars_of_some bindings (reference?_text_append earlier _), ih]
  | case3 c rest missing ih =>
      by_cases listed : OpensList (c :: rest)
      · -- The reference is no reference here, it closes the list.
        obtain ⟨name, list, named, unclosed, split⟩ := listed
        have taken : expand bindings (first.takenIn name list) =
            expand bindings (second.takenIn name list) :=
          expand_congr_flag bindings rfl (escapeFlag_takenIn written written' same flag name list)
        rw [split, ← List.append_assoc, ← List.append_assoc, ← Reference.text_takenIn,
          ← Reference.text_takenIn,
          resolveChars_of_some bindings
            (reference?_text_append (written.takenIn named unclosed) after),
          resolveChars_of_some bindings
            (reference?_text_append (written'.takenIn named unclosed) after), taken]
      · have step (reference : Reference) :
            reference? (c :: (rest ++ (reference.text ++ after))) = none :=
          reference?_append_text_eq_none (List.cons_ne_nil c rest) missing listed reference after
        rw [List.cons_append, List.cons_append, resolveChars_of_none bindings (step first),
          resolveChars_of_none bindings (step second), ih]

theorem resolve_exchange (before after : String) :
    resolve (before ++ String.ofList first.text ++ after) bindings =
      resolve (before ++ String.ofList second.text ++ after) bindings := by
  simp only [resolve, String.toList_append, String.toList_ofList, List.append_assoc]
  rw [resolveChars_exchange bindings written written' same flag]

end Exchange

end Template
end BuildNotices
