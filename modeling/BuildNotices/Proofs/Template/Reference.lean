import BuildNotices.Template
import BuildNotices.Proofs.Text.Search
import Mathlib.Data.List.Infix
/-!
The grammar of references.

A reference is written as a dollar sign, an opening brace, a name, modifiers and a closing
brace. The reader at the start of a text accepts exactly what is written this way, and a
text that ends inside of a reference ends in one of four open forms.
-/

namespace BuildNotices
namespace Template

open Text

/-- A letter or an underscore, and then letters, digits and underscores. -/
def IsName (name : List Char) : Prop :=
  ∃ first rest, name = first :: rest ∧ isNameStart first = true ∧
    ∀ c ∈ rest, isNameChar c = true

/-- Nothing, or a comma and a text without a closing brace. -/
def AreModifiers (modifiers : List Char) : Prop :=
  modifiers = [] ∨ ∃ list, modifiers = ',' :: list ∧ '\x7d' ∉ list

structure Reference.WellFormed (reference : Reference) : Prop where
  name : IsName reference.name
  modifiers : AreModifiers reference.modifiers

def Reference.text (reference : Reference) : List Char :=
  '$' :: '\x7b' :: (reference.name ++ reference.modifiers ++ ['\x7d'])

theorem isNameChar_of_isNameStart {c : Char} (start : isNameStart c = true) :
    isNameChar c = true := by
  unfold isNameStart at start
  unfold isNameChar Char.isAlphanum
  rw [Bool.or_eq_true] at start ⊢
  rcases start with letter | underscore
  · exact Or.inl (by rw [letter, Bool.true_or])
  · exact Or.inr underscore

theorem IsName.isNameChar {name : List Char} (named : IsName name) :
    ∀ c ∈ name, isNameChar c = true := by
  obtain ⟨first, rest, rfl, start, others⟩ := named
  intro c member
  rcases List.mem_cons.mp member with same | later
  · rw [same]
    exact isNameChar_of_isNameStart start
  · exact others c later

theorem AreModifiers.not_mem {modifiers : List Char} (listed : AreModifiers modifiers) :
    '\x7d' ∉ modifiers := by
  rcases listed with rfl | ⟨list, rfl, closed⟩
  · exact List.not_mem_nil
  · intro member
    rcases List.mem_cons.mp member with same | later
    · exact absurd same (by decide)
    · exact closed later

/-! ### Reading what is written -/

/-- Behind a name stands a comma or a closing brace. -/
theorem AreModifiers.behind {modifiers : List Char} (listed : AreModifiers modifiers)
    (after : List Char) :
    ∃ stop rest, modifiers ++ '\x7d' :: after = stop :: rest ∧
      (stop = '\x7d' ∨ stop = ',') := by
  rcases listed with rfl | ⟨list, rfl, closed⟩
  · exact ⟨'\x7d', after, rfl, Or.inl rfl⟩
  · exact ⟨',', list ++ '\x7d' :: after, rfl, Or.inr rfl⟩

theorem reference?_text_append {reference : Reference} (written : reference.WellFormed)
    (after : List Char) :
    reference? (reference.text ++ after) = some (reference, after) := by
  obtain ⟨name, modifiers⟩ := reference
  obtain ⟨named, listed⟩ := written
  simp only at named listed
  obtain ⟨stop, rest, behind, stops⟩ := listed.behind after
  have refused : isNameChar stop = false := by
    rcases stops with rfl | rfl <;> decide
  have nameSpan := span_append Template.isNameChar rest named.isNameChar refused
  have listSpan := span_ne after listed.not_mem
  have shape : Reference.text ⟨name, modifiers⟩ ++ after =
      '$' :: '\x7b' :: (name ++ stop :: rest) := by
    simp [Reference.text, ← behind]
  have starts : name.head?.any isNameStart = true := by
    obtain ⟨first, others, rfl, start, _⟩ := named
    exact start
  rw [behind] at listSpan
  rw [shape, reference?]
  simp only [nameSpan, listSpan, starts, List.head?_cons, Option.some.injEq, Bool.true_and,
    Bool.or_eq_true, decide_eq_true_eq, stops, if_true]

/-! ### Everything that is read was written -/

theorem isName_takeWhile {chars : List Char}
    (starts : ((chars.takeWhile isNameChar).head?.any isNameStart) = true) :
    IsName (chars.takeWhile isNameChar) := by
  cases found : chars.takeWhile isNameChar with
  | nil =>
      rw [found] at starts
      cases starts
  | cons first rest =>
      rw [found] at starts
      refine ⟨first, rest, rfl, starts, ?_⟩
      intro c member
      have inside : c ∈ chars.takeWhile isNameChar := found ▸ List.mem_cons_of_mem first member
      exact List.mem_takeWhile_imp inside

theorem areModifiers_takeWhile {behind : List Char}
    (stops : (behind.head? = some '\x7d' || behind.head? = some ',') = true) :
    AreModifiers (behind.takeWhile (fun c => decide (c ≠ '\x7d'))) := by
  cases behind with
  | nil => simp at stops
  | cons stop rest =>
      simp only [List.head?_cons, Option.some.injEq, Bool.or_eq_true, decide_eq_true_eq] at stops
      rcases stops with rfl | rfl
      · exact Or.inl rfl
      · refine Or.inr ⟨rest.takeWhile (fun c => decide (c ≠ '\x7d')), ?_, ?_⟩
        · rw [List.takeWhile_cons_of_pos (by decide)]
        · exact not_mem_takeWhile_ne '\x7d' rest

/-- The reader accepts exactly the references as they are written. -/
theorem reference?_eq_some_iff {chars after : List Char} {reference : Reference} :
    reference? chars = some (reference, after) ↔
      reference.WellFormed ∧ chars = reference.text ++ after := by
  constructor
  · intro found
    unfold reference? at found
    split at found
    next rest =>
      simp only at found
      split at found
      next accepted =>
        rw [Bool.and_eq_true] at accepted
        split at found
        next stop tail behind =>
          cases found
          obtain ⟨split, closing⟩ := span_split behind
          have brace : stop = '\x7d' := by simpa using closing
          refine ⟨⟨isName_takeWhile accepted.1, areModifiers_takeWhile accepted.2⟩, ?_⟩
          have whole : rest = rest.takeWhile isNameChar ++ rest.dropWhile isNameChar :=
            List.takeWhile_append_dropWhile.symm
          rw [split, brace] at whole
          simp only [Reference.text, List.cons_append, List.append_assoc, List.nil_append]
          rw [← whole]
        next => cases found
      next => cases found
    next => cases found
  · rintro ⟨written, rfl⟩
    exact reference?_text_append written after

/-! ### Open ends -/

/-- What a text may end in when it is cut inside of a reference. -/
inductive IsOpen : List Char → Prop where
  | sign : IsOpen ['$']
  | brace : IsOpen ['$', '\x7b']
  | name {name : List Char} (named : IsName name) : IsOpen ('$' :: '\x7b' :: name)
  | modifiers {name list : List Char} (named : IsName name) (unclosed : '\x7d' ∉ list) :
      IsOpen ('$' :: '\x7b' :: (name ++ ',' :: list))

theorem IsName.of_prefix {chars name : List Char} (named : IsName name)
    (start : chars <+: name) (begun : chars ≠ []) : IsName chars := by
  obtain ⟨first, rest, rfl, starts, others⟩ := named
  cases chars with
  | nil => exact absurd rfl begun
  | cons c tail =>
      obtain ⟨rfl, inside⟩ := List.cons_prefix_cons.mp start
      exact ⟨c, tail, rfl, starts, fun d member => others d (inside.subset member)⟩

def Reference.unclosed (reference : Reference) : List Char :=
  '$' :: '\x7b' :: (reference.name ++ reference.modifiers)

theorem Reference.text_eq_unclosed (reference : Reference) :
    reference.text = reference.unclosed ++ ['\x7d'] := by
  simp only [Reference.text, Reference.unclosed, List.cons_append]

theorem Reference.unclosed_proper (reference : Reference) :
    reference.unclosed <+: reference.text ∧ reference.unclosed ≠ reference.text := by
  rw [reference.text_eq_unclosed]
  refine ⟨List.prefix_append _ _, fun same => ?_⟩
  have lengths := congrArg List.length same
  simp at lengths

theorem isOpen_of_prefix_unclosed {chars : List Char} {reference : Reference}
    (written : reference.WellFormed) (start : chars <+: reference.unclosed)
    (begun : chars ≠ []) : IsOpen chars := by
  obtain ⟨name, modifiers⟩ := reference
  obtain ⟨named, listed⟩ := written
  simp only [Reference.unclosed] at named listed start
  cases chars with
  | nil => exact absurd rfl begun
  | cons sign chars =>
      obtain ⟨rfl, behindSign⟩ := List.cons_prefix_cons.mp start
      clear start begun
      cases chars with
      | nil => exact .sign
      | cons brace chars =>
          obtain ⟨rfl, behind⟩ := List.cons_prefix_cons.mp behindSign
          -- The cut is inside of the name, or behind it.
          rcases List.prefix_or_prefix_of_prefix behind (List.prefix_append name modifiers) with
            inName | ⟨list, rfl⟩
          · by_cases empty : chars = []
            · rw [empty]
              exact .brace
            · exact .name (named.of_prefix inName empty)
          · have inList : list <+: modifiers := (List.prefix_append_right_inj name).mp behind
            rcases listed with rfl | ⟨items, rfl, closed⟩
            · rw [List.prefix_nil.mp inList, List.append_nil]
              exact .name named
            · cases list with
              | nil =>
                  rw [List.append_nil]
                  exact .name named
              | cons comma list =>
                  obtain ⟨rfl, inItems⟩ := List.cons_prefix_cons.mp inList
                  exact .modifiers named fun member => closed (inItems.subset member)

/-- The open forms are the proper initial parts of references. -/
theorem isOpen_iff {chars : List Char} :
    IsOpen chars ↔ chars ≠ [] ∧ ∃ reference : Reference, reference.WellFormed ∧
      chars <+: reference.text ∧ chars ≠ reference.text := by
  constructor
  · intro isOpen
    have shortest : Reference.WellFormed ⟨['_'], []⟩ :=
      ⟨⟨'_', [], rfl, by decide, fun _ member => nomatch member⟩, Or.inl rfl⟩
    cases isOpen with
    | sign =>
        exact ⟨List.cons_ne_nil _ _, _, shortest, by decide, by decide⟩
    | brace =>
        exact ⟨List.cons_ne_nil _ _, _, shortest, by decide, by decide⟩
    | @name name named =>
        refine ⟨List.cons_ne_nil _ _, ⟨name, []⟩, ⟨named, Or.inl rfl⟩, ?_⟩
        have proper := Reference.unclosed_proper ⟨name, []⟩
        simpa only [Reference.unclosed, List.append_nil] using proper
    | @modifiers name list named unclosed =>
        exact ⟨List.cons_ne_nil _ _, ⟨name, ',' :: list⟩,
          ⟨named, Or.inr ⟨list, rfl, unclosed⟩⟩, Reference.unclosed_proper ⟨name, ',' :: list⟩⟩
  · rintro ⟨begun, reference, written, start, proper⟩
    rw [reference.text_eq_unclosed] at start proper
    rcases List.prefix_concat_iff.mp start with whole | start
    · exact absurd whole proper
    · exact isOpen_of_prefix_unclosed written start begun

end Template
end BuildNotices
