import BuildNotices.Text.Search
import Mathlib.Data.List.TakeWhile
/-!
Laws of searching: occurrences, spans of accepted characters, fields between separators, first
lines.
-/

namespace BuildNotices
namespace Text

/-! ### Occurrences -/

theorem occurs_eq_true_iff {part chars : List Char} :
    occurs part chars = true ↔ part <:+: chars := by
  induction chars with
  | nil =>
      simp only [occurs, List.isEmpty_iff, List.infix_nil]
  | cons c rest ih =>
      simp only [occurs, Bool.or_eq_true, List.isPrefixOf_iff_prefix, ih, List.infix_cons_iff]

theorem contains_eq_true_iff {text part : String} :
    contains text part = true ↔ part.toList <:+: text.toList :=
  occurs_eq_true_iff

/-! ### Spans -/

/-- A run of accepted characters ends at the first one that is not accepted. -/
theorem span_append (accept : Char → Bool) {front : List Char} {stop : Char}
    (rest : List Char) (accepted : ∀ c ∈ front, accept c = true) (refused : accept stop = false) :
    (front ++ stop :: rest).takeWhile accept = front ∧
      (front ++ stop :: rest).dropWhile accept = stop :: rest := by
  rw [List.takeWhile_append_of_pos accepted, List.dropWhile_append_of_pos accepted,
    List.takeWhile_cons_of_neg (by simp [refused]), List.dropWhile_cons_of_neg (by simp [refused]),
    List.append_nil]
  exact ⟨rfl, rfl⟩

/-- Where a text is cut behind accepted characters, what follows starts with another one. -/
theorem span_split {accept : Char → Bool} {chars rest : List Char} {stop : Char}
    (behind : chars.dropWhile accept = stop :: rest) :
    chars = chars.takeWhile accept ++ stop :: rest ∧ accept stop = false := by
  constructor
  · rw [← behind, List.takeWhile_append_dropWhile]
  · have first := List.head?_dropWhile_not accept chars
    rw [behind] at first
    simpa using first

/-- The run of the characters before a mark ends at the first one. -/
theorem span_ne {mark : Char} {front : List Char} (rest : List Char) (absent : mark ∉ front) :
    (front ++ mark :: rest).takeWhile (fun c => decide (c ≠ mark)) = front ∧
      (front ++ mark :: rest).dropWhile (fun c => decide (c ≠ mark)) = mark :: rest := by
  refine span_append _ rest (fun c member => ?_) (by simp)
  exact decide_eq_true fun same => absent (same ▸ member)

theorem not_mem_takeWhile_ne (mark : Char) (chars : List Char) :
    mark ∉ chars.takeWhile (fun c => decide (c ≠ mark)) := fun member =>
  of_decide_eq_true (List.mem_takeWhile_imp (p := fun c => decide (c ≠ mark)) member) rfl

/-! ### Fields -/

theorem fields_cons_of_ne {separator c : Char} (other : c ≠ separator) (rest : List Char) :
    ∃ first others, fields separator rest = first :: others ∧
      fields separator (c :: rest) = (c :: first) :: others := by
  cases split : fields separator rest with
  | nil => exact absurd split (fields_ne_nil separator rest)
  | cons first others =>
      refine ⟨first, others, rfl, ?_⟩
      simp only [fields, if_neg other, split]

theorem fields_append (separator : Char) (first second : List Char) :
    fields separator (first ++ separator :: second) =
      fields separator first ++ fields separator second := by
  induction first with
  | nil =>
      simp only [List.nil_append, fields, if_true, List.singleton_append]
  | cons c rest ih =>
      by_cases same : c = separator
      · simp only [List.cons_append, fields, if_pos same, ih]
      · obtain ⟨field, others, split, longer⟩ := fields_cons_of_ne same rest
        obtain ⟨field', others', split', longer'⟩ :=
          fields_cons_of_ne same (rest ++ separator :: second)
        rw [ih, split, List.cons_append] at split'
        cases split'
        rw [List.cons_append, longer', longer, List.cons_append]

theorem fields_of_not_mem {separator : Char} {chars : List Char}
    (absent : separator ∉ chars) : fields separator chars = [chars] := by
  induction chars with
  | nil => rfl
  | cons c rest ih =>
      have other : c ≠ separator := fun same => absent (same ▸ List.mem_cons_self)
      have inner := ih fun member => absent (List.mem_cons_of_mem c member)
      simp only [fields, if_neg other, inner]

/-- A text without separators in front of another one belongs to its first field. -/
theorem fields_append_of_not_mem {separator : Char} {front rest first : List Char}
    {others : List (List Char)} (absent : separator ∉ front)
    (split : fields separator rest = first :: others) :
    fields separator (front ++ rest) = (front ++ first) :: others := by
  induction front with
  | nil => exact split
  | cons c later ih =>
      obtain ⟨other, inner⟩ := not_or.mp (mt List.mem_cons.mpr absent)
      simp only [List.cons_append, fields, if_neg (Ne.symm other), ih inner]

theorem not_mem_of_mem_fields {separator : Char} {chars field : List Char}
    (member : field ∈ fields separator chars) : separator ∉ field := by
  induction chars generalizing field with
  | nil =>
      rw [fields, List.mem_singleton] at member
      rw [member]
      exact List.not_mem_nil
  | cons c rest ih =>
      by_cases same : c = separator
      · rw [fields, if_pos same] at member
        rcases List.mem_cons.mp member with empty | later
        · rw [empty]
          exact List.not_mem_nil
        · exact ih later
      · obtain ⟨first, others, split, longer⟩ := fields_cons_of_ne same rest
        rw [longer] at member
        rcases List.mem_cons.mp member with extended | later
        · rw [extended, List.mem_cons, not_or]
          exact ⟨Ne.symm same, ih (split ▸ List.mem_cons_self)⟩
        · exact ih (split ▸ List.mem_cons_of_mem first later)

/-! ### First lines -/

/-- A text ends its first line with a line feed, or with a carriage return and a line feed, or it
has no other line. -/
inductive IsFirstLine : (text line : List Char) → Prop where
  | only {line : List Char} (unbroken : '\n' ∉ line) : IsFirstLine line line
  | feed {line : List Char} (rest : List Char) (unbroken : '\n' ∉ line)
      (plain : line.getLast? ≠ some '\r') : IsFirstLine (line ++ '\n' :: rest) line
  | returnAndFeed {line : List Char} (rest : List Char) (unbroken : '\n' ∉ line) :
      IsFirstLine (line ++ '\r' :: '\n' :: rest) line

theorem isFirstLine_firstLine (text : String) :
    IsFirstLine text.toList (firstLine text).toList := by
  let inside : Char → Bool := fun c => decide (c ≠ '\n')
  have unbroken : '\n' ∉ text.toList.takeWhile inside := not_mem_takeWhile_ne '\n' text.toList
  have joined := List.takeWhile_append_dropWhile (p := inside) (l := text.toList)
  have cut : firstLine text =
      if (text.toList.takeWhile inside).length < text.toList.length &&
          (text.toList.takeWhile inside).getLast? = some '\r' then
        String.ofList (text.toList.takeWhile inside).dropLast
      else
        String.ofList (text.toList.takeWhile inside) := rfl
  rw [cut]
  cases behind : text.toList.dropWhile inside with
  | nil =>
      rw [behind, List.append_nil] at joined
      rw [joined] at unbroken ⊢
      rw [if_neg (by simp), String.toList_ofList]
      exact .only unbroken
  | cons stop rest =>
      obtain ⟨split, refused⟩ := span_split behind
      have feed : stop = '\n' := by simpa [inside] using refused
      rw [feed] at split
      generalize text.toList.takeWhile inside = line at split unbroken ⊢
      rw [split]
      by_cases ended : line.getLast? = some '\r'
      · obtain ⟨before, rfl⟩ := List.getLast?_eq_some_iff.mp ended
        rw [if_pos (by simp), String.toList_ofList, List.dropLast_concat, List.append_assoc]
        exact .returnAndFeed rest fun member => unbroken (List.mem_append_left _ member)
      · rw [if_neg (by simp [ended]), String.toList_ofList]
        exact .feed rest unbroken ended

end Text
end BuildNotices
