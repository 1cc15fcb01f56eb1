import BuildNotices.Text.Blank
import Mathlib.Data.List.DropRight
import Mathlib.Data.List.TakeWhile
/-!
What trimming keeps.

Only characters of the stripped class go, so a text that is not blank still has its first
character that is not blank after it was trimmed.
-/

namespace BuildNotices
namespace Text

theorem mem_dropWhile_of_kept {drop : Char → Bool} {chars : List Char} {c : Char}
    (member : c ∈ chars) (kept : drop c = false) : c ∈ chars.dropWhile drop := by
  rw [← List.takeWhile_append_dropWhile (p := drop) (l := chars)] at member
  rcases List.mem_append.mp member with dropped | rest
  · have gone := List.mem_takeWhile_imp dropped
    rw [kept] at gone
    cases gone
  · exact rest

theorem mem_dropTailWhile_of_kept {drop : Char → Bool} {chars : List Char} {c : Char}
    (member : c ∈ chars) (kept : drop c = false) : c ∈ dropTailWhile drop chars :=
  List.mem_reverse.mpr (mem_dropWhile_of_kept (List.mem_reverse.mpr member) kept)

theorem mem_of_mem_stripWhile {drop : Char → Bool} {chars : List Char} {c : Char}
    (member : c ∈ stripWhile drop chars) : c ∈ chars := by
  have inner : c ∈ (chars.dropWhile drop).reverse :=
    (List.dropWhile_sublist drop).subset (List.mem_reverse.mp member)
  exact (List.dropWhile_sublist drop).subset (List.mem_reverse.mp inner)

/-- Trimming keeps every character that is not blank, and adds none. -/
theorem all_isBlank_trim (chars : List Char) :
    (trim chars).all isBlank = chars.all isBlank := by
  rw [Bool.eq_iff_iff, List.all_eq_true, List.all_eq_true]
  constructor
  · intro blank c member
    by_contra kept
    have inside : c ∈ trim chars := mem_dropTailWhile_of_kept
      (mem_dropWhile_of_kept member (by simpa using kept)) (by simpa using kept)
    exact kept (blank c inside)
  · intro blank c member
    exact blank c (mem_of_mem_stripWhile member)

theorem allBlank_trimmed (text : String) : allBlank (trimmed text) = allBlank text := by
  rw [allBlank, trimmed, String.toList_ofList, all_isBlank_trim, allBlank]

theorem ofList_trim_eq_empty_iff {chars : List Char} :
    String.ofList (trim chars) = "" ↔ chars.all isBlank = true := by
  rw [← trim_eq_nil_iff, String.ofList_eq_empty_iff]

/-- What is left of a text does not end with a dropped character. -/
theorem refused_of_getLast?_dropTailWhile {drop : Char → Bool} {chars : List Char} {c : Char}
    (last : (dropTailWhile drop chars).getLast? = some c) : drop c = false := by
  have kept := List.head?_dropWhile_not drop chars.reverse
  rw [dropTailWhile, List.getLast?_reverse] at last
  rw [last] at kept
  exact kept

/-- Nothing is dropped in front of a character that stays. -/
theorem dropTailWhile_append {drop : Char → Bool} {front : List Char}
    (kept : ∀ c, front.getLast? = some c → drop c = false) (chars : List Char) :
    dropTailWhile drop (front ++ chars) = front ++ dropTailWhile drop chars := by
  have whole : front.reverse.dropWhile drop = front.reverse := by
    cases reversed : front.reverse with
    | nil => rfl
    | cons last others =>
        have final : front.getLast? = some last := by
          rw [← List.head?_reverse, reversed, List.head?_cons]
        rw [List.dropWhile_cons_of_neg (by simp [kept last final])]
  rw [dropTailWhile, dropTailWhile, List.reverse_append, List.dropWhile_append]
  split
  next none =>
    rw [whole, List.isEmpty_iff.mp none, List.reverse_reverse, List.reverse_nil, List.append_nil]
  next => rw [List.reverse_append, List.reverse_reverse]

/-- A trimmed text does not end with a blank. -/
theorem isBlank_of_getLast?_trim {chars : List Char} {c : Char}
    (last : (trim chars).getLast? = some c) : isBlank c = false :=
  refused_of_getLast?_dropTailWhile last

/-- A trimmed text does not start with a blank. -/
theorem isBlank_of_head?_trim {chars : List Char} {c : Char}
    (first : (trim chars).head? = some c) : isBlank c = false := by
  have kept := List.head?_dropWhile_not isBlank chars
  obtain ⟨rest, cut⟩ : trim chars <+: chars.dropWhile isBlank := List.rdropWhile_prefix isBlank _
  have same : (chars.dropWhile isBlank).head? = some c := by
    rw [← cut, List.head?_append, first, Option.some_or]
  rw [same] at kept
  exact kept

/-- Nothing that is dropped anyway matters at the end of a text. -/
theorem dropTailWhile_append_of_all {drop : Char → Bool} {tail : List Char}
    (dropped : ∀ c ∈ tail, drop c = true) (chars : List Char) :
    dropTailWhile drop (chars ++ tail) = dropTailWhile drop chars := by
  rw [dropTailWhile, List.reverse_append, List.dropWhile_append_of_pos, dropTailWhile]
  intro c member
  exact dropped c (List.mem_reverse.mp member)

theorem stripWhile_append_left {drop : Char → Bool} {front : List Char}
    (dropped : ∀ c ∈ front, drop c = true) (chars : List Char) :
    stripWhile drop (front ++ chars) = stripWhile drop chars := by
  rw [stripWhile, List.dropWhile_append_of_pos dropped, stripWhile]

theorem stripWhile_append_right {drop : Char → Bool} {tail : List Char}
    (dropped : ∀ c ∈ tail, drop c = true) (chars : List Char) :
    stripWhile drop (chars ++ tail) = stripWhile drop chars := by
  rw [stripWhile, List.dropWhile_append, stripWhile]
  split
  next nothing =>
    rw [List.isEmpty_iff.mp nothing, List.dropWhile_eq_nil_iff.mpr dropped]
  next => exact dropTailWhile_append_of_all dropped _

/-- A text is what stripping leaves of it, with dropped characters around. -/
theorem exists_dropped_around_stripWhile (drop : Char → Bool) (chars : List Char) :
    ∃ before after, (∀ c ∈ before, drop c = true) ∧ (∀ c ∈ after, drop c = true) ∧
      chars = before ++ (stripWhile drop chars ++ after) := by
  refine ⟨chars.takeWhile drop, (chars.dropWhile drop).rtakeWhile drop,
    fun c => List.mem_takeWhile_imp, fun c => List.mem_rtakeWhile_imp, ?_⟩
  have tail : stripWhile drop chars ++ (chars.dropWhile drop).rtakeWhile drop =
      chars.dropWhile drop :=
    List.rdropWhile_append_rtakeWhile
  rw [tail, List.takeWhile_append_dropWhile]

theorem stripWhile_of_kept {drop : Char → Bool} {chars : List Char}
    (kept : ∀ c ∈ chars, drop c = false) : stripWhile drop chars = chars := by
  have front : chars.dropWhile drop = chars :=
    List.dropWhile_eq_self_iff.mpr fun begun => by simp [kept]
  have back : dropTailWhile drop chars = chars :=
    List.rdropWhile_eq_self_iff.mpr fun begun => by simp [kept]
  rw [stripWhile, front, back]

theorem trim_append_left {blanks : List Char} (blank : ∀ c ∈ blanks, isBlank c = true)
    (chars : List Char) : trim (blanks ++ chars) = trim chars :=
  stripWhile_append_left blank chars

theorem trim_append_right {blanks : List Char} (blank : ∀ c ∈ blanks, isBlank c = true)
    (chars : List Char) : trim (chars ++ blanks) = trim chars :=
  stripWhile_append_right blank chars

/-- A text is what trimming leaves of it, with blanks around. -/
theorem exists_blanks_around_trim (chars : List Char) :
    ∃ before after, (∀ c ∈ before, isBlank c = true) ∧ (∀ c ∈ after, isBlank c = true) ∧
      chars = before ++ (trim chars ++ after) :=
  exists_dropped_around_stripWhile isBlank chars

theorem trim_trim (chars : List Char) : trim (trim chars) = trim chars := by
  obtain ⟨before, after, blankBefore, blankAfter, whole⟩ := exists_blanks_around_trim chars
  conv_rhs => rw [whole, trim_append_left blankBefore, trim_append_right blankAfter]

end Text
end BuildNotices
