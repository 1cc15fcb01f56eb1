import BuildNotices.Unicode.DirectionData
import BuildNotices.Unicode.Table
/-!
Directions of writing.

A domain name with a label that runs from right to left must not be misread: each of its
labels keeps to the characters that go with its direction.
-/

namespace BuildNotices
namespace Unicode

inductive Direction where
  | leftToRight
  | rightToLeft
  | arabicLetter
  | arabicNumber
  | europeanNumber
  | europeanSeparator
  | commonSeparator
  | europeanTerminator
  | otherNeutral
  | boundaryNeutral
  | nonspacingMark
deriving Repr, DecidableEq

namespace Direction

def ofNumber : Nat → Direction
  | 1 => .rightToLeft
  | 2 => .arabicLetter
  | 3 => .arabicNumber
  | 4 => .europeanNumber
  | 5 => .europeanSeparator
  | 6 => .commonSeparator
  | 7 => .europeanTerminator
  | 8 => .otherNeutral
  | 9 => .boundaryNeutral
  | 10 => .nonspacingMark
  | _ => .leftToRight

end Direction

def directions : List Row := readTable directionText

def directionOf (c : Char) : Direction :=
  ((numberOf? directions c.toNat).map Direction.ofNumber).getD .leftToRight

/-- The directions that make a domain name one with labels from right to left. -/
def turningDirections : List Direction :=
  [.rightToLeft, .arabicLetter, .arabicNumber]

def turnsDirection (c : Char) : Bool :=
  turningDirections.contains (directionOf c)

/-- The directions that go with either direction of a label. -/
def neutralDirections : List Direction :=
  [.europeanNumber, .europeanSeparator, .commonSeparator, .europeanTerminator, .otherNeutral,
    .boundaryNeutral, .nonspacingMark]

def lastDirection? (directions : List Direction) : Option Direction :=
  directions.reverse.find? fun direction => direction ≠ .nonspacingMark

/-- Whether a label keeps to its direction, which its first character decides. -/
def keepsDirection (label : List Char) : Bool :=
  let directions := label.map directionOf
  let allowed (own ends : List Direction) : Bool :=
    directions.all (own ++ neutralDirections).contains &&
      (lastDirection? directions).any ends.contains
  match directions.head? with
  | none => true
  | some .leftToRight => allowed [.leftToRight] [.leftToRight, .europeanNumber]
  | some .rightToLeft => rightToLeft directions allowed
  | some .arabicLetter => rightToLeft directions allowed
  | some _ => false
where
  /-- The same for a label from right to left, which has numbers of one kind only. -/
  rightToLeft (directions : List Direction)
      (allowed : List Direction → List Direction → Bool) : Bool :=
    allowed turningDirections (.europeanNumber :: turningDirections) &&
      !(directions.contains .europeanNumber && directions.contains .arabicNumber)

end Unicode
end BuildNotices
