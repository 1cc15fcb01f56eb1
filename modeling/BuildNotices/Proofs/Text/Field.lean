import BuildNotices.Proofs.Text.Blank
import BuildNotices.Proofs.Text.Search
import Mathlib.Data.List.Forall2
/-!
Fields with blanks around them.

The blanks around a separator may be counted to it or to the fields beside it, and a text may be
trimmed before it is cut into fields or not. Once the fields are trimmed there is no difference.
-/

namespace BuildNotices
namespace Text

/-! ### Blanks around fields -/

/-- The outer field goes on with blanks behind the inner one. -/
def PadsEnd (inner outer : List Char) : Prop :=
  ∃ blanks, (∀ c ∈ blanks, isBlank c = true) ∧ outer = inner ++ blanks

/-- The outer field has blanks around the inner one. -/
def Pads (inner outer : List Char) : Prop :=
  ∃ blanks, (∀ c ∈ blanks, isBlank c = true) ∧ ∃ rest, PadsEnd inner rest ∧ outer = blanks ++ rest

namespace PadsEnd

theorem refl (field : List Char) : PadsEnd field field :=
  ⟨[], List.forall_mem_nil _, (List.append_nil field).symm⟩

theorem pads {inner outer : List Char} (padded : PadsEnd inner outer) : Pads inner outer :=
  ⟨[], List.forall_mem_nil _, outer, padded, rfl⟩

theorem cons {inner outer : List Char} (c : Char) (padded : PadsEnd inner outer) :
    PadsEnd (c :: inner) (c :: outer) := by
  obtain ⟨blanks, blank, rfl⟩ := padded
  exact ⟨blanks, blank, rfl⟩

theorem nil_cons {outer : List Char} {c : Char} (blank : isBlank c = true)
    (padded : PadsEnd [] outer) : PadsEnd [] (c :: outer) := by
  obtain ⟨_, blankRest, rfl⟩ := padded
  exact ⟨_, List.forall_mem_cons.mpr ⟨blank, blankRest⟩, rfl⟩

end PadsEnd

theorem not_mem_of_blank {c : Char} (visible : isBlank c = false) {blanks : List Char}
    (blank : ∀ d ∈ blanks, isBlank d = true) : c ∉ blanks :=
  fun member => Bool.false_ne_true (visible.symm.trans (blank c member))

theorem pads_trim (chars : List Char) : Pads (trim chars) chars := by
  obtain ⟨before, after, blankBefore, blankAfter, whole⟩ := exists_blanks_around_trim chars
  exact ⟨before, blankBefore, trim chars ++ after, ⟨after, blankAfter, rfl⟩, whole⟩

namespace Pads

theorem cons_outer {inner outer : List Char} {c : Char} (blank : isBlank c = true)
    (padded : Pads inner outer) : Pads inner (c :: outer) := by
  obtain ⟨blanks, blankRest, rest, ends, rfl⟩ := padded
  exact ⟨c :: blanks, List.forall_mem_cons.mpr ⟨blank, blankRest⟩, rest, ends, rfl⟩

theorem trim_eq {inner outer : List Char} (padded : Pads inner outer) :
    trim outer = trim inner := by
  obtain ⟨before, blankBefore, rest, ⟨after, blankAfter, rfl⟩, rfl⟩ := padded
  rw [trim_append_left blankBefore, trim_append_right blankAfter]

/-- A text is trimmed to a word without blanks exactly when it has only blanks around it. -/
theorem iff_trim_eq {word chars : List Char} (kept : ∀ c ∈ word, isBlank c = false) :
    Pads word chars ↔ trim chars = word := by
  constructor
  · intro padded
    exact padded.trim_eq.trans (stripWhile_of_kept kept)
  · rintro rfl
    exact pads_trim chars

theorem not_mem {inner outer : List Char} (padded : Pads inner outer) {c : Char}
    (visible : isBlank c = false) (absent : c ∉ inner) : c ∉ outer := by
  obtain ⟨before, blankBefore, _, ⟨after, blankAfter, rfl⟩, rfl⟩ := padded
  simp [not_mem_of_blank visible blankBefore, not_mem_of_blank visible blankAfter, absent]

theorem map_trim_eq {inners outers : List (List Char)}
    (padded : List.Forall₂ Pads inners outers) : outers.map trim = inners.map trim := by
  induction padded with
  | nil => rfl
  | cons first _ ih => rw [List.map_cons, List.map_cons, first.trim_eq, ih]

end Pads

/-! ### Separators that take the blanks around them -/

section Separators

variable {separator : Char}

theorem spacedFields_separator (behind : Bool) (rest : List Char) :
    spacedFields separator behind (separator :: rest) =
      [] :: spacedFields separator true rest := by
  rw [spacedFields, if_pos rfl]

theorem spacedFields_taken {behind : Bool} {c : Char} {rest : List Char} (other : c ≠ separator)
    (blank : isBlank c = true)
    (takes : behind = true ∨ (rest.dropWhile isBlank).head? = some separator) :
    spacedFields separator behind (c :: rest) = spacedFields separator behind rest := by
  rw [spacedFields, if_neg other, if_pos]
  rw [blank, Bool.true_and, Bool.or_eq_true, decide_eq_true_iff]
  exact takes

theorem spacedFields_kept {behind : Bool} {c : Char} {rest : List Char} (other : c ≠ separator)
    (kept : ¬ (isBlank c = true ∧
      (behind = true ∨ (rest.dropWhile isBlank).head? = some separator)))
    {first : List Char} {others : List (List Char)}
    (split : spacedFields separator false rest = first :: others) :
    spacedFields separator behind (c :: rest) = (c :: first) :: others := by
  rw [spacedFields, if_neg other, if_neg, split]
  rwa [Bool.and_eq_true, Bool.or_eq_true, decide_eq_true_iff]

/-- Nothing stands in front of a separator but blanks, so these belong to it. -/
theorem spacedFields_of_ahead {chars : List Char}
    (ahead : (chars.dropWhile isBlank).head? = some separator) :
    ∃ others, spacedFields separator false chars = [] :: others := by
  induction chars with
  | nil => cases ahead
  | cons c rest ih =>
      by_cases same : c = separator
      · rw [same]
        exact ⟨_, spacedFields_separator false rest⟩
      · have blank : isBlank c = true := by
          by_contra visible
          rw [List.dropWhile_cons_of_neg visible, List.head?_cons, Option.some.injEq] at ahead
          exact same ahead
        rw [List.dropWhile_cons_of_pos blank] at ahead
        obtain ⟨others, split⟩ := ih ahead
        exact ⟨others, (spacedFields_taken same blank (Or.inr ahead)).trans split⟩

/-- Fields that match, where only behind a separator the first ones may differ in blanks in front
of them. -/
def PadsAll (behind : Bool) : (inners outers : List (List Char)) → Prop
  | inner :: inners, outer :: outers =>
      Pads inner outer ∧ (behind = false → PadsEnd inner outer) ∧ List.Forall₂ Pads inners outers
  | _, _ => False

namespace PadsAll

variable {behind : Bool} {inners outers : List (List Char)}

theorem forall₂ (padded : PadsAll behind inners outers) : List.Forall₂ Pads inners outers := by
  cases inners with
  | nil => exact padded.elim
  | cons inner inners =>
      cases outers with
      | nil => exact padded.elim
      | cons outer outers => exact .cons padded.1 padded.2.2

theorem exists_cons {outer : List Char} (padded : PadsAll behind inners (outer :: outers)) :
    ∃ inner rest, inners = inner :: rest ∧ PadsAll behind (inner :: rest) (outer :: outers) := by
  cases inners with
  | nil => exact padded.elim
  | cons inner rest => exact ⟨inner, rest, rfl, padded⟩

/-- A separator starts new fields. -/
theorem nil_cons (after : Bool) (padded : PadsAll behind inners outers) :
    PadsAll after ([] :: inners) ([] :: outers) :=
  ⟨(PadsEnd.refl []).pads, fun _ => PadsEnd.refl [], padded.forall₂⟩

/-- A character that is kept goes on with the first fields. -/
theorem extend {inner outer : List Char} (c : Char) (after : Bool)
    (padded : PadsAll false (inner :: inners) (outer :: outers)) :
    PadsAll after ((c :: inner) :: inners) ((c :: outer) :: outers) := by
  have extended := (padded.2.1 rfl).cons c
  exact ⟨extended.pads, fun _ => extended, padded.2.2⟩

end PadsAll

/-- The fields between wide separators stand in those between the bare ones. -/
theorem spacedFields_padsAll (behind : Bool) (chars : List Char) :
    PadsAll behind (spacedFields separator behind chars) (fields separator chars) := by
  induction chars generalizing behind with
  | nil => exact ⟨(PadsEnd.refl []).pads, fun _ => PadsEnd.refl [], .nil⟩
  | cons c rest ih =>
      by_cases same : c = separator
      · rw [same, spacedFields_separator, fields, if_pos rfl]
        exact (ih true).nil_cons behind
      · obtain ⟨outer, outers, cut, longer⟩ := fields_cons_of_ne same rest
        rw [longer]
        by_cases taken : isBlank c = true ∧
            (behind = true ∨ (rest.dropWhile isBlank).head? = some separator)
        · obtain ⟨inner, inners, split, first, ends, others⟩ := (cut ▸ ih behind).exists_cons
          rw [spacedFields_taken same taken.1 taken.2, split]
          refine ⟨first.cons_outer taken.1, fun front => ?_, others⟩
          -- In front of a separator the inner field has ended.
          have ahead := taken.2.resolve_left (front ▸ Bool.false_ne_true)
          obtain ⟨_, ended⟩ := spacedFields_of_ahead ahead
          rw [front, ended] at split
          cases split
          exact (ends front).nil_cons taken.1
        · obtain ⟨inner, inners, split, inside⟩ := (cut ▸ ih false).exists_cons
          rw [spacedFields_kept same taken split]
          exact inside.extend c behind

theorem map_trim_spacedFields (behind : Bool) (chars : List Char) :
    (spacedFields separator behind chars).map trim = (fields separator chars).map trim :=
  (Pads.map_trim_eq (spacedFields_padsAll behind chars).forall₂).symm

/-! ### Blanks around the whole text -/

variable (visible : isBlank separator = false)

include visible

theorem map_trim_fields_append_left {blanks : List Char}
    (blank : ∀ c ∈ blanks, isBlank c = true) (chars : List Char) :
    (fields separator (blanks ++ chars)).map trim = (fields separator chars).map trim := by
  cases split : fields separator chars with
  | nil => exact absurd split (fields_ne_nil separator chars)
  | cons first others =>
      rw [fields_append_of_not_mem (not_mem_of_blank visible blank) split, List.map_cons,
        trim_append_left blank, List.map_cons]

theorem fields_append_right_padsAll {blanks : List Char}
    (blank : ∀ c ∈ blanks, isBlank c = true) (chars : List Char) :
    PadsAll false (fields separator chars) (fields separator (chars ++ blanks)) := by
  induction chars with
  | nil =>
      rw [List.nil_append, fields_of_not_mem (not_mem_of_blank visible blank)]
      exact ⟨PadsEnd.pads ⟨blanks, blank, rfl⟩, fun _ => ⟨blanks, blank, rfl⟩, .nil⟩
  | cons c rest ih =>
      by_cases same : c = separator
      · rw [List.cons_append, fields, if_pos same, fields, if_pos same]
        exact ih.nil_cons false
      · obtain ⟨inner, inners, cut, longer⟩ := fields_cons_of_ne same rest
        obtain ⟨outer, outers, cut', longer'⟩ := fields_cons_of_ne same (rest ++ blanks)
        rw [cut, cut'] at ih
        rw [List.cons_append, longer, longer']
        exact ih.extend c false

theorem map_trim_fields_trim (chars : List Char) :
    (fields separator (trim chars)).map trim = (fields separator chars).map trim := by
  obtain ⟨before, after, blankBefore, blankAfter, whole⟩ := exists_blanks_around_trim chars
  conv_rhs => rw [whole]
  rw [map_trim_fields_append_left visible blankBefore,
    Pads.map_trim_eq (fields_append_right_padsAll visible blankAfter (trim chars)).forall₂]

end Separators

end Text
end BuildNotices
