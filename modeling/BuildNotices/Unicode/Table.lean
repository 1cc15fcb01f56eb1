import BuildNotices.Text.Digits
import BuildNotices.Text.Search
/-!
Tables of code points.

A table is kept as a text of rows with blanks or line ends between them. A row is a code
point, or the first and the last of several with a hyphen between them, perhaps with their
distance behind a colon. Behind an equals sign may follow numbers with points between
them. All numbers are hexadecimal.
-/

namespace BuildNotices
namespace Unicode

open Text

/-- A row of a table: code points at one distance from each other, and numbers for them. -/
structure Row where
  first : Nat
  last : Nat
  distance : Nat
  /-- The numbers behind the equals sign, if there is one. -/
  numbers : Option (List Nat)
deriving Repr, DecidableEq

namespace Row

def covers (row : Row) (point : Nat) : Bool :=
  row.first ≤ point && point ≤ row.last && (point - row.first) % row.distance = 0

def readSpan? (chars : List Char) (numbers : Option (List Nat)) : Option Row :=
  match fields '-' chars with
  | [one] => do
      let point ← hexNumber? one
      return { first := point, last := point, distance := 1, numbers }
  | [first, rest] => do
      let first ← hexNumber? first
      match fields ':' rest with
      | [last] => return { first, last := ← hexNumber? last, distance := 1, numbers }
      | [last, distance] =>
          let last ← hexNumber? last
          return { first, last, distance := ← hexNumber? distance, numbers }
      | _ => none
  | _ => none

def read? (chars : List Char) : Option Row :=
  match fields '=' chars with
  | [span] => readSpan? span none
  | [span, []] => readSpan? span (some [])
  | [span, numbers] => do
      let numbers ← (fields '.' numbers).mapM hexNumber?
      readSpan? span (some numbers)
  | _ => none

end Row

def readTable (text : String) : List Row :=
  ((fields '\n' text.toList).flatMap (fields ' ')).filterMap Row.read?

def rowOf? (table : List Row) (point : Nat) : Option Row :=
  table.find? fun row => row.covers point

def numberOf? (table : List Row) (point : Nat) : Option Nat :=
  ((rowOf? table point).bind Row.numbers).bind List.head?

example : (Row.read? "100-12E:2=101".toList).any (·.covers 0x102) := by decide

example : !(Row.read? "100-12E:2=101".toList).any (·.covers 0x103) := by decide

end Unicode
end BuildNotices
