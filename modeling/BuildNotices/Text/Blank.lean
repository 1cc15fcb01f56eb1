/-!
White space and trimming.

A character is blank when Unicode gives it the property `White_Space`. Room
lists, tokens, templates and configured names are all trimmed with this one
rule, so a text that looks empty on screen is treated as empty everywhere.
-/

namespace BuildNotices
namespace Text

/-- The code points with the Unicode property `White_Space`, as closed ranges. -/
def blankRanges : List (Nat × Nat) :=
  [(0x09, 0x0D), (0x20, 0x20), (0x85, 0x85), (0xA0, 0xA0), (0x1680, 0x1680),
    (0x2000, 0x200A), (0x2028, 0x2029), (0x202F, 0x202F), (0x205F, 0x205F),
    (0x3000, 0x3000)]

def isBlank (c : Char) : Bool :=
  blankRanges.any fun range => range.1 ≤ c.toNat && c.toNat ≤ range.2

example : [' ', '\t', '\n', '\r', '\u00a0', '\u3000'].all isBlank = true := by decide

example : ['a', '_', '\u200b', '\ufeff'].any isBlank = false := by decide

/-! ### Cutting characters off the ends of a text -/

def dropTailWhile (drop : Char → Bool) (chars : List Char) : List Char :=
  (chars.reverse.dropWhile drop).reverse

def stripWhile (drop : Char → Bool) (chars : List Char) : List Char :=
  dropTailWhile drop (chars.dropWhile drop)

def trim (chars : List Char) : List Char :=
  stripWhile isBlank chars

def trimmed (text : String) : String :=
  String.ofList (trim text.toList)

def allBlank (text : String) : Bool :=
  text.toList.all isBlank

def withoutFinalSlashes (text : String) : String :=
  String.ofList (dropTailWhile (· == '/') text.toList)

def withoutInitialSlashes (text : String) : String :=
  String.ofList (text.toList.dropWhile (· == '/'))

/-! ### Small laws of trimming -/

theorem all_of_dropWhile_eq_nil {drop : Char → Bool} {chars : List Char}
    (nothing : chars.dropWhile drop = []) : chars.all drop = true := by
  induction chars with
  | nil => rfl
  | cons c rest ih =>
      by_cases dropped : drop c = true
      · rw [List.dropWhile_cons_of_pos dropped] at nothing
        simp [dropped, ih nothing]
      · rw [List.dropWhile_cons_of_neg dropped] at nothing
        cases nothing

theorem dropWhile_eq_nil_of_all {drop : Char → Bool} {chars : List Char}
    (every : chars.all drop = true) : chars.dropWhile drop = [] := by
  induction chars with
  | nil => rfl
  | cons c rest ih =>
      rw [List.all_cons, Bool.and_eq_true] at every
      rw [List.dropWhile_cons_of_pos every.1, ih every.2]

/-- Trimming leaves nothing exactly when every character is blank. -/
theorem trim_eq_nil_iff {chars : List Char} :
    trim chars = [] ↔ chars.all isBlank = true := by
  constructor
  · intro nothing
    unfold trim stripWhile dropTailWhile at nothing
    have tailEmpty := List.reverse_eq_nil_iff.mp nothing
    cases found : chars.dropWhile isBlank with
    | nil => exact all_of_dropWhile_eq_nil found
    | cons c rest =>
        rw [found] at tailEmpty
        have every := all_of_dropWhile_eq_nil tailEmpty
        rw [List.all_reverse, List.all_cons, Bool.and_eq_true] at every
        have kept : isBlank c = false := by
          have heads := List.head?_dropWhile_not isBlank chars
          rw [found] at heads
          simpa using heads
        rw [kept] at every
        cases every.1
  · intro every
    unfold trim stripWhile
    rw [dropWhile_eq_nil_of_all every]
    rfl

end Text
end BuildNotices
