import BuildNotices.Text.Digits
/-!
Identifiers of cards.

An identifier is sixteen random bytes in lower-case hexadecimal digits, in five groups.
Some of its bits are fixed and say that it is a random one.
-/

namespace BuildNotices

open Text

def identifierGroups : List Nat := [4, 2, 2, 2, 6]

def byteDigits (byte : UInt8) : List Char :=
  [lowerHexDigit (byte.toNat / 16), lowerHexDigit (byte.toNat % 16)]

def groupedDigits : (groups : List Nat) → List UInt8 → List (List Char)
  | [], _ => []
  | size :: groups, bytes =>
      (bytes.take size).flatMap byteDigits :: groupedDigits groups (bytes.drop size)

def markRandom (bytes : List UInt8) : List UInt8 :=
  (bytes.modify 6 fun byte => byte &&& 0x0F ||| 0x40).modify 8
    fun byte => byte &&& 0x3F ||| 0x80

def identifierOf (bytes : List UInt8) : String :=
  "-".intercalate ((groupedDigits identifierGroups (markRandom bytes)).map String.ofList)

example : identifierOf (List.replicate 16 0xFF) = "ffffffff-ffff-4fff-bfff-ffffffffffff" := by
  decide +kernel

end BuildNotices
