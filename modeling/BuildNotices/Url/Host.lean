import BuildNotices.Text.Search
import BuildNotices.Url.Percent
/-!
Hosts: names and network addresses.

An IPv4 address may be written with fewer than four numbers, of which the last one
fills the remaining bytes, and its numbers may be octal or hexadecimal. An IPv6
address stands in brackets and may leave out one run of zero pieces. Addresses are
written in their shortest common form.
-/

namespace BuildNotices
namespace Url

open Text

inductive Fault where
  | missingScheme
  | emptyHost
  | invalidDomain
  | invalidHostCharacter
  | invalidIpv4
  | invalidIpv6
  | invalidPort
deriving Repr, DecidableEq

def Fault.message : Fault → String
  | .missingScheme => "relative URL without a base"
  | .emptyHost => "empty host"
  | .invalidDomain => "invalid international domain name"
  | .invalidHostCharacter => "invalid domain character"
  | .invalidIpv4 => "invalid IPv4 address"
  | .invalidIpv6 => "invalid IPv6 address"
  | .invalidPort => "invalid port number"

inductive Host where
  | name (text : String)
  | ipv4 (address : Nat)
  | ipv6 (pieces : List Nat)
deriving Repr, DecidableEq, Inhabited

/-! ### IPv4 -/

def numeralBase (chars : List Char) : Nat × List Char :=
  match chars with
  | '0' :: 'x' :: digits => (16, digits)
  | '0' :: 'X' :: digits => (16, digits)
  | '0' :: digit :: digits => (8, digit :: digits)
  | digits => (10, digits)

def ipv4Number? (part : List Char) : Option Nat :=
  if part.isEmpty then
    none
  else
    let (base, digits) := numeralBase part
    digits.foldl
      (fun value c => do
        let value ← value
        let digit ← hexValue? c
        guard (digit < base)
        return base * value + digit)
      (some 0)

/-- The parts of a host between its points; a point at the end does not count. -/
def hostParts (host : List Char) : List (List Char) :=
  let parts := fields '.' host
  if 1 < parts.length && parts.getLast? = some [] then parts.dropLast else parts

/-- Whether a host has to be read as an IPv4 address, because it ends in a number. -/
def endsInNumber (host : List Char) : Bool :=
  match (hostParts host).getLast? with
  | none => false
  | some last => (!last.isEmpty && last.all isDigit) || (ipv4Number? last).isSome

def readIpv4 (host : List Char) : Except Fault Nat :=
  let parts := hostParts host
  match parts.mapM ipv4Number? with
  | none => .error .invalidIpv4
  | some numbers =>
      let leading := numbers.dropLast
      let last := numbers.getLast?.getD 0
      let bound := Nat.pow 256 (4 - leading.length)
      if 4 < numbers.length || leading.any (255 < ·) || bound ≤ last then
        .error .invalidIpv4
      else
        .ok (leading.foldl (fun value number => 256 * value + number) 0 * bound + last)

def ipv4Text (address : Nat) : String :=
  ".".intercalate
    ([16777216, 65536, 256, 1].map fun unit => toString (address / unit % 256))

/-! ### IPv6 -/

def ipv6Piece? (part : List Char) : Option Nat :=
  if part.isEmpty || 4 < part.length then none else hexNumber? part

def ipv6Byte? (part : List Char) : Option Nat :=
  if part.isEmpty || !part.all isDigit || (1 < part.length && part.head? = some '0') then
    none
  else
    let value := decimalValue part
    if value < 256 then some value else none

/-- Reads the end of an address: one piece, or two written as an IPv4 address. -/
def ipv6Tail? (part : List Char) : Option (List Nat) :=
  if part.contains '.' then
    match (fields '.' part).mapM ipv6Byte? with
    | some [a, b, c, d] => some [256 * a + b, 256 * c + d]
    | _ => none
  else
    (ipv6Piece? part).map fun piece => [piece]

def ipv6Pieces? : List (List Char) → Option (List Nat)
  | [] => some []
  | [last] => ipv6Tail? last
  | part :: rest => do
      let piece ← ipv6Piece? part
      let others ← ipv6Pieces? rest
      return piece :: others

def splitAtGap? : List Char → Option (List Char × List Char)
  | ':' :: ':' :: rest => some ([], rest)
  | c :: rest => (splitAtGap? rest).map fun (left, right) => (c :: left, right)
  | [] => none

def gapSide? (chars : List Char) : Option (List Nat) :=
  if chars.isEmpty then some [] else ipv6Pieces? (fields ':' chars)

def readIpv6 (chars : List Char) : Except Fault (List Nat) :=
  let pieces := match splitAtGap? chars with
    | none => (ipv6Pieces? (fields ':' chars)).filter (·.length = 8)
    | some (left, right) => do
        guard (!left.contains '.')
        let left ← gapSide? left
        let right ← gapSide? right
        guard (left.length + right.length ≤ 7)
        return left ++ List.replicate (8 - left.length - right.length) 0 ++ right
  match pieces with
  | some pieces => .ok pieces
  | none => .error .invalidIpv6

def leadingZeros (pieces : List Nat) : Nat :=
  (pieces.takeWhile (· = 0)).length

/-- The start and the length of the first longest run of at least two zero pieces. -/
def zeroRun? (pieces : List Nat) : Option (Nat × Nat) :=
  (List.range pieces.length).foldl
    (fun best start =>
      let length := leadingZeros (pieces.drop start)
      if (best.map Prod.snd).getD 1 < length then some (start, length) else best)
    none

def hexText (value : Nat) : String :=
  String.ofList (Nat.toDigits 16 value)

def ipv6Text (pieces : List Nat) : String :=
  let side (pieces : List Nat) : String := ":".intercalate (pieces.map hexText)
  match zeroRun? pieces with
  | none => side pieces
  | some (start, length) => side (pieces.take start) ++ "::" ++ side (pieces.drop (start + length))

/-! ### Hosts -/

def Host.text : Host → String
  | .name text => text
  | .ipv4 address => ipv4Text address
  | .ipv6 pieces => "[" ++ ipv6Text pieces ++ "]"

def readBracketed? (chars : List Char) : Option (Except Fault Host) :=
  match chars with
  | '[' :: rest =>
      some (if rest.getLast? = some ']' then (readIpv6 rest.dropLast).map .ipv6
        else .error .invalidIpv6)
  | _ => none

def isForbiddenInHost (c : Char) : Bool :=
  "\x00\t\n\r #/:<>?@[\\]^|".toList.contains c

def readPlainHost (chars : List Char) : Except Fault Host :=
  match readBracketed? chars with
  | some result => result
  | none =>
      if chars.any isForbiddenInHost then .error .invalidHostCharacter
      else .ok (.name (String.ofList (encode controlSet chars)))

example :
    (readIpv6 "::ffff:1.2.3.4".toList).toOption = some [0, 0, 0, 0, 0, 0xFFFF, 0x102, 0x304] := by
  decide

example : (readIpv4 "0x7f.1".toList).toOption = some 0x7F000001 := by decide

end Url
end BuildNotices
