import BuildNotices.Unicode.CompositionData
import BuildNotices.Unicode.Table
/-!
Normalized text.

Composite characters are taken apart, combining marks are put in order, and what belongs
together is composed again, so that texts that look alike become equal. Characters that
normalized text replaces one by one are expected to be replaced already.
-/

namespace BuildNotices
namespace Unicode

def compositions : List Row := readTable compositionText

def combiningClasses : List Row := readTable combiningText

/-- The combining class of a code point; characters that begin something new have zero. -/
def combiningClass (point : Nat) : Nat :=
  (numberOf? combiningClasses point).getD 0

/-! ### Hangul syllables, which are composed by a rule -/

namespace Hangul

def syllables : Nat := 0xAC00
def leads : Nat := 0x1100
def vowels : Nat := 0x1161
/-- One less than the first trailing consonant. -/
def trails : Nat := 0x11A7

def leadCount : Nat := 19
def vowelCount : Nat := 21
def trailCount : Nat := 28

def parts? (point : Nat) : Option (Nat × Nat) :=
  let index := point - syllables
  if point < syllables || leadCount * vowelCount * trailCount ≤ index then
    none
  else if index % trailCount ≠ 0 then
    some (point - index % trailCount, trails + index % trailCount)
  else
    some (leads + index / (vowelCount * trailCount),
      vowels + index / trailCount % vowelCount)

def compose? (first second : Nat) : Option Nat :=
  if leads ≤ first && first < leads + leadCount && vowels ≤ second &&
      second < vowels + vowelCount then
    some (syllables + ((first - leads) * vowelCount + (second - vowels)) * trailCount)
  else if syllables ≤ first && first < syllables + leadCount * vowelCount * trailCount &&
      (first - syllables) % trailCount = 0 && trails < second &&
      second < trails + trailCount then
    some (first + (second - trails))
  else
    none

end Hangul

/-! ### Taking apart and composing -/

def parts? (point : Nat) : Option (Nat × Nat) :=
  Hangul.parts? point <|>
    match (rowOf? compositions point).bind Row.numbers with
    | some [first, second] => some (first, second)
    | _ => none

def compose? (first second : Nat) : Option Nat :=
  Hangul.compose? first second <|>
    (compositions.find? fun row => row.numbers = some [first, second]).map Row.first

/-- The number of times that the first part of a composite character may be composite
itself. -/
def partDepth : Nat := 4

def decompose : (depth : Nat) → Nat → List Nat
  | 0, point => [point]
  | depth + 1, point =>
      match parts? point with
      | some (first, second) => decompose depth first ++ [second]
      | none => [point]

/-- Puts a code point behind others, given in reverse: a mark goes in front of the marks
of a higher class. -/
def insertOrdered (point : Nat) : List Nat → List Nat
  | [] => [point]
  | last :: before =>
      if combiningClass point ≠ 0 && combiningClass point < combiningClass last then
        last :: insertOrdered point before
      else
        point :: last :: before

def ordered (points : List Nat) : List Nat :=
  (points.foldl (fun reversed point => insertOrdered point reversed) []).reverse

/-- A text while it is composed: what is finished, in reverse, then the character that
still takes marks, and the marks behind it that it did not take, in reverse. -/
structure Composing where
  finished : List Nat := []
  starter : Option Nat := none
  marks : List Nat := []

namespace Composing

def reversed (text : Composing) : List Nat :=
  text.marks ++ text.starter.toList ++ text.finished

/-- Whether a mark that was not taken keeps a code point from the character. -/
def isBlocked (text : Composing) (point : Nat) : Bool :=
  match text.marks with
  | [] => false
  | last :: _ => combiningClass point ≤ combiningClass last

def append (text : Composing) (point : Nat) : Composing :=
  if combiningClass point = 0 then
    { finished := text.reversed, starter := some point, marks := [] }
  else
    { text with marks := point :: text.marks }

def add (text : Composing) (point : Nat) : Composing :=
  match text.starter.bind fun starter => compose? starter point with
  | some composed =>
      if text.isBlocked point then text.append point
      else { text with starter := some composed }
  | none => text.append point

end Composing

def composed (points : List Nat) : List Nat :=
  (points.foldl Composing.add {}).reversed.reverse

def normalized (chars : List Char) : List Char :=
  let points := chars.flatMap fun c => decompose partDepth c.toNat
  (composed (ordered points)).map Char.ofNat

end Unicode
end BuildNotices
