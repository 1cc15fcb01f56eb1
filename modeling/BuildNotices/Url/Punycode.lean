/-!
Labels of domain names in ASCII letters, digits and hyphens.

The ASCII characters of a label come first. Then, behind a hyphen, follow the other ones
in the order of their code points: each as the distance in code point and place from the
one before it, in digits whose base adapts to the distances.
-/

namespace BuildNotices
namespace Url
namespace Punycode

def base : Nat := 36

def leastThreshold : Nat := 1

def greatestThreshold : Nat := 26

def firstBias : Nat := 72

def firstPoint : Nat := 0x80

def digit (value : Nat) : Char :=
  if value < 26 then Char.ofNat ('a'.toNat + value) else Char.ofNat ('0'.toNat + (value - 26))

def digitValue? (c : Char) : Option Nat :=
  if 'a' ≤ c && c ≤ 'z' then some (c.toNat - 'a'.toNat)
  else if 'A' ≤ c && c ≤ 'Z' then some (c.toNat - 'A'.toNat)
  else if '0' ≤ c && c ≤ '9' then some (c.toNat - '0'.toNat + 26)
  else none

/-- The least digit at a place that is followed by another one. -/
def threshold (bias place : Nat) : Nat :=
  max leastThreshold (min greatestThreshold (base * (place + 1) - bias))

theorem threshold_pos (bias place : Nat) : 0 < threshold bias place := by
  unfold threshold leastThreshold
  omega

def scaled (delta : Nat) (rounds : Nat) : Nat :=
  if (base - leastThreshold) * greatestThreshold / 2 < delta then
    scaled (delta / (base - leastThreshold)) (rounds + 1)
  else
    base * rounds + base * delta / (delta + 38)
termination_by delta
decreasing_by
  rename_i large
  unfold base leastThreshold greatestThreshold at *
  omega

def adapt (delta count : Nat) (isFirst : Bool) : Nat :=
  let damped := if isFirst then delta / 700 else delta / 2
  scaled (damped + damped / count) 0

/-! ### Encoding -/

def encodeDistance (bias place distance : Nat) : List Char :=
  let least := threshold bias place
  if distance < least then
    [digit distance]
  else
    digit (least + (distance - least) % (base - least)) ::
      encodeDistance bias (place + 1) ((distance - least) / (base - least))
termination_by distance
decreasing_by
  have positive := threshold_pos bias place
  have below := Nat.div_le_self (distance - threshold bias place) (base - threshold bias place)
  change (distance - threshold bias place) / (base - threshold bias place) < distance
  omega

structure Encoding where
  output : List Char
  /-- The distance since the last character that was encoded. -/
  delta : Nat
  bias : Nat
  /-- The number of characters that are encoded. -/
  count : Nat

def Encoding.pass (basics point : Nat) (state : Encoding) (c : Char) : Encoding :=
  if c.toNat < point then
    { state with delta := state.delta + 1 }
  else if c.toNat = point then
    { output := state.output ++ encodeDistance state.bias 0 state.delta
      delta := 0
      bias := adapt state.delta (state.count + 1) (state.count = basics)
      count := state.count + 1 }
  else
    state

def encodePoints (label : List Char) (basics : Nat) :
    List Nat → (next : Nat) → Encoding → Encoding
  | [], _, state => state
  | point :: points, next, state =>
      let reached := { state with delta := state.delta + (point - next) * (state.count + 1) }
      let passed := label.foldl (Encoding.pass basics point) reached
      encodePoints label basics points (point + 1) { passed with delta := passed.delta + 1 }

def insertPoint (point : Nat) : List Nat → List Nat
  | [] => [point]
  | other :: rest =>
      if point < other then point :: other :: rest
      else if point = other then other :: rest
      else other :: insertPoint point rest

def encode (label : List Char) : List Char :=
  let basics := label.filter fun c => c.toNat < firstPoint
  let others := label.filter fun c => firstPoint ≤ c.toNat
  let points := others.foldr (fun c points => insertPoint c.toNat points) []
  let state := encodePoints label basics.length points firstPoint
    { output := [], delta := 0, bias := firstBias, count := basics.length }
  basics ++ (if basics.isEmpty then [] else ['-']) ++ state.output

/-! ### Decoding -/

/-- Reads a distance, given the weight of its first digit. -/
def decodeDistance? (bias : Nat) : (place weight : Nat) → List Char →
    Option (Nat × List Char)
  | _, _, [] => none
  | place, weight, c :: rest => do
      let value ← digitValue? c
      if value < threshold bias place then
        return (value * weight, rest)
      else
        let (others, rest) ←
          decodeDistance? bias (place + 1) (weight * (base - threshold bias place)) rest
        return (value * weight + others, rest)

/-- Puts the encoded characters into a label. The number bounds how many there are. -/
def decodePoints? : (bound : Nat) → (point index bias : Nat) → (isFirst : Bool) →
    (label : List Char) → List Char → Option (List Char)
  | _, _, _, _, _, label, [] => some label
  | 0, _, _, _, _, _, _ => none
  | bound + 1, point, index, bias, isFirst, label, chars => do
      let (distance, rest) ← decodeDistance? bias 0 1 chars
      let count := label.length + 1
      let place := index + distance
      let point := point + place / count
      if point.isValidChar then
        let label := label.insertIdx (place % count) (Char.ofNat point)
        decodePoints? bound point (place % count + 1) (adapt distance count isFirst) false
          label rest
      else
        none

def decode? (text : List Char) : Option (List Char) :=
  let basics := ((text.reverse.dropWhile (· ≠ '-')).drop 1).reverse
  let behind := if basics.isEmpty then text else text.drop (basics.length + 1)
  if basics.all fun c => c.toNat < firstPoint then
    decodePoints? behind.length firstPoint 0 firstBias true basics behind
  else
    none

example : encode "bücher".toList = "bcher-kva".toList := by cbv

example : decode? "bcher-kva".toList = some "bücher".toList := by cbv

end Punycode
end Url
end BuildNotices
