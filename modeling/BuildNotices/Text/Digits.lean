/-!
Numerals.

Decimal and hexadecimal digits as values, and the number a list of digits
writes. Only the ASCII digits count as digits.
-/

namespace BuildNotices
namespace Text

def isDigit (c : Char) : Bool :=
  '0' ≤ c && c ≤ '9'

def hexValue? (c : Char) : Option Nat :=
  if isDigit c then some (c.toNat - '0'.toNat)
  else if 'a' ≤ c && c ≤ 'f' then some (c.toNat - 'a'.toNat + 10)
  else if 'A' ≤ c && c ≤ 'F' then some (c.toNat - 'A'.toNat + 10)
  else none

def decimalValue (digits : List Char) : Nat :=
  digits.foldl (fun value c => 10 * value + (c.toNat - '0'.toNat)) 0

def hexNumber? (digits : List Char) : Option Nat :=
  digits.foldl
    (fun value c => value.bind fun high => (hexValue? c).map (16 * high + ·)) (some 0)

example : decimalValue "2048".toList = 2048 := by decide

example : hexNumber? "1fA0".toList = some 0x1FA0 := by decide

example : hexNumber? "1g".toList = none := by decide

def upperHexDigit (value : Nat) : Char :=
  "0123456789ABCDEF".toList.getD value '0'

def lowerHexDigit (value : Nat) : Char :=
  "0123456789abcdef".toList.getD value '0'

/-- The magnitude from which a number rounds to no finite binary64 value. -/
def overflowThreshold : Nat :=
  Nat.pow 2 1024 - Nat.pow 2 970

def outOfRange (digits : List Char) (exponent : Int) : Bool :=
  let mantissa := decimalValue digits
  if mantissa = 0 then
    false
  else if 0 ≤ exponent then
    308 < exponent || overflowThreshold ≤ mantissa * Nat.pow 10 exponent.toNat
  else if digits.length ≤ (-exponent).toNat then
    false
  else
    overflowThreshold * Nat.pow 10 (-exponent).toNat ≤ mantissa

def padded (width value : Nat) : String :=
  let digits := toString value
  String.ofList (List.replicate (width - digits.length) '0') ++ digits

def upperAscii (text : String) : String :=
  text.map Char.toUpper

def lowerAscii (text : String) : String :=
  text.map Char.toLower

end Text
end BuildNotices
