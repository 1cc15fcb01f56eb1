import BuildNotices.Text.Digits
/-!
Percent-encoding and form encoding.

A character that is not allowed in its place is written as the bytes of its UTF-8
form, each as a percent sign and two upper-case hexadecimal digits. What is allowed
depends on the part of a URL; the sets below are those of the URL standard.
Characters outside ASCII are never allowed.
-/

namespace BuildNotices
namespace Url

open Text

def escapeByte (byte : UInt8) : List Char :=
  ['%', upperHexDigit (byte.toNat / 16), upperHexDigit (byte.toNat % 16)]

def escapeChar (c : Char) : List Char :=
  (String.utf8EncodeChar c).flatMap escapeByte

def encode (escaped : Char → Bool) (chars : List Char) : List Char :=
  chars.flatMap fun c => if escaped c then escapeChar c else [c]

/-! ### The sets of the URL standard -/

def controlSet (c : Char) : Bool :=
  c.toNat < 0x20 || 0x7F ≤ c.toNat

def fragmentSet (c : Char) : Bool :=
  controlSet c || " \"<>".toList.contains c || c = '\x60'

def querySet (c : Char) : Bool :=
  controlSet c || " \"#<>".toList.contains c

/-- The query of a scheme with a default port also escapes the apostrophe. -/
def specialQuerySet (c : Char) : Bool :=
  querySet c || c = '\x27'

def pathSet (c : Char) : Bool :=
  fragmentSet c || c = '#' || c = '?' || c = '\x7b' || c = '\x7d'

def userinfoSet (c : Char) : Bool :=
  pathSet c || "/:;=@[\\]^|".toList.contains c

/-- A single segment that is appended to a path keeps no slash and no percent sign. -/
def segmentSet (c : Char) : Bool :=
  pathSet c || c = '/' || c = '%'

/-- In schemes where a backslash separates segments, a segment keeps none either. -/
def specialSegmentSet (c : Char) : Bool :=
  segmentSet c || c = '\\'

/-! ### Decoding -/

/-- The bytes of a text in which every complete escape stands for its byte. -/
def decodeBytes : List Char → List UInt8
  | [] => []
  | '%' :: high :: low :: rest =>
      match hexValue? high, hexValue? low with
      | some high, some low => UInt8.ofNat (16 * high + low) :: decodeBytes rest
      | _, _ => String.utf8EncodeChar '%' ++ decodeBytes (high :: low :: rest)
  | c :: rest => String.utf8EncodeChar c ++ decodeBytes rest

/-- The text whose UTF-8 form is written with escapes, if the bytes are a text. -/
def decode? (chars : List Char) : Option String :=
  String.fromUTF8? (decodeBytes chars).toByteArray

/-! ### Forms -/

def formKeeps (c : Char) : Bool :=
  c.isAlphanum || "*-._".toList.contains c

def formChar (c : Char) : List Char :=
  if formKeeps c then [c]
  else if c = ' ' then ['+']
  else escapeChar c

def formText (text : String) : List Char :=
  text.toList.flatMap formChar

def formPair (pair : String × String) : List Char :=
  formText pair.1 ++ '=' :: formText pair.2

def formEncode (pairs : List (String × String)) : String :=
  String.ofList (List.intercalate ['&'] (pairs.map formPair))

example : formEncode [("a b", "ä&=*")] = "a+b=%C3%A4%26%3D*" := by decide

end Url
end BuildNotices
