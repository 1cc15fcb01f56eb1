import BuildNotices.Unicode.MarkData
import BuildNotices.Unicode.Normal
/-!
Marks and joiners.

The two joiners are invisible. They are meant only where they change how the characters
next to them look.
-/

namespace BuildNotices
namespace Unicode

def marks : List Row := readTable markText

def isMark (c : Char) : Bool :=
  (rowOf? marks c.toNat).isSome

inductive Joining where
  | none
  | left
  | right
  | both
  | transparent
deriving Repr, DecidableEq

def joinings : List Row := readTable joiningText

def joiningOf (c : Char) : Joining :=
  match numberOf? joinings c.toNat with
  | some 1 => .left
  | some 2 => .right
  | some 3 => .both
  | some 4 => .transparent
  | _ => .none

/-- The combining class of the marks that suppress a vowel. -/
def viramaClass : Nat := 9

def zeroWidthNonJoiner : Char := '\u200c'

def zeroWidthJoiner : Char := '\u200d'

def nearestJoining? (chars : List Char) : Option Joining :=
  (chars.map joiningOf).find? fun joining => joining ≠ .transparent

/-- Whether the joiners of a text stand where they are meant to, given the characters in
front of it, in reverse. -/
def joinersFit : (reversed : List Char) → List Char → Bool
  | _, [] => true
  | reversed, c :: rest =>
      let behindVirama := reversed.head?.any fun last => combiningClass last.toNat = viramaClass
      let betweenJoining :=
        (nearestJoining? reversed).any [Joining.left, .both].contains &&
          (nearestJoining? rest).any [Joining.right, .both].contains
      let fits :=
        if c = zeroWidthNonJoiner then behindVirama || betweenJoining
        else if c = zeroWidthJoiner then behindVirama
        else true
      fits && joinersFit (c :: reversed) rest

end Unicode
end BuildNotices
