import BuildNotices.Json.Value
import BuildNotices.Text.Digits
/-!
The tokens of a JSON text, each with its place.

Places are counted in bytes, because reports name the byte that could not be
accepted. A token never fails: text that is no token becomes `Token.broken`,
which ends the list. Whether some faults matter depends on the reader. A number
out of range or an unpaired surrogate is refused only by a reader that keeps the
value, so such a token carries the place of its `refusal`.
-/

namespace BuildNotices
namespace Json

open Text

/-- Where a token stands: the bytes before it, and the bytes through its first
one. At the end of the text both count the whole text. -/
structure Place where
  before : Nat
  through : Nat
deriving Repr, DecidableEq, Inhabited

inductive Token where
  | openBrace
  | closeBrace
  | openBracket
  | closeBracket
  | comma
  | colon
  /-- A value of one token; `refusal` is the place where a reader that keeps the
  value stops. -/
  | scalar (value : Json) (refusal : Option Nat)
  /-- Text that starts like a token and is none; a reader that keeps the value and
  one that skips it may stop at different places. -/
  | broken (first : Char) (kept skipped : Nat)
  | finish
deriving Repr, Inhabited

structure Lexeme where
  place : Place
  token : Token
deriving Repr, Inhabited

structure Scan where
  token : Token
  width : Nat
  offset : Nat

def Scan.ascii (token : Token) (offset width : Nat) : Scan :=
  { token, width, offset := offset + width }

def Scan.fault (first : Char) (offset kept skipped : Nat) : Scan :=
  .ascii (.broken first kept skipped) offset 1

/-! ### Words -/

/-- The byte at which a text stops spelling a word, if it does; `offset` counts
the bytes before the text. -/
def wordFault? : (word text : List Char) → (offset : Nat) → Option Nat
  | [], _, _ => none
  | _ :: _, [], offset => some offset
  | expected :: word, c :: text, offset =>
      if c = expected then wordFault? word text (offset + 1) else some (offset + 1)

def scanWord (first : Char) (word : List Char) (value : Json) (rest : List Char)
    (offset : Nat) : Scan :=
  match wordFault? word rest (offset + 1) with
  | none => .ascii (.scalar value none) offset (1 + word.length)
  | some fault => .fault first offset fault fault

/-! ### Numbers -/

/-- The number of digits after which an exponent exceeds every 32-bit number. -/
def exponentLimit? (digits : List Char) : Option Nat :=
  (List.range digits.length).map (· + 1) |>.find? fun count =>
    0x80000000 ≤ decimalValue (digits.take count)

structure NumberParts where
  negative : Bool
  whole : List Char
  fraction : Option (List Char)
  /-- The length of the mark and the sign, whether the exponent is negative, its digits. -/
  exponent : Option (Nat × Bool × List Char)

namespace NumberParts

def width (parts : NumberParts) : Nat :=
  (if parts.negative then 1 else 0) + parts.whole.length +
    (match parts.fraction with
      | none => 0
      | some digits => 1 + digits.length) +
    (match parts.exponent with
      | none => 0
      | some (mark, _, digits) => mark + digits.length)

def integer? (parts : NumberParts) : Option Int :=
  match parts.fraction, parts.exponent with
  | none, none =>
      let magnitude := decimalValue parts.whole
      if parts.negative then
        if magnitude = 0 || 0x8000000000000000 < magnitude then none
        else some (-(magnitude : Int))
      else if magnitude < UInt64.size then some magnitude else none
  | _, _ => none

def refusal? (parts : NumberParts) (offset : Nat) : Option Nat :=
  let fraction := parts.fraction.getD []
  let digits := parts.whole ++ fraction
  let finish := offset + parts.width
  match parts.exponent with
  | none => if outOfRange digits (-(fraction.length : Int)) then some finish else none
  | some (_, negative, exponentDigits) =>
      match exponentLimit? exponentDigits with
      | some count =>
          if negative || decimalValue digits = 0 then none
          else some (finish - exponentDigits.length + count)
      | none =>
          let size : Int := decimalValue exponentDigits
          let exponent := (if negative then -size else size) - fraction.length
          if outOfRange digits exponent then some finish else none

end NumberParts

def nextByte (rest : List Char) (offset : Nat) : Nat :=
  if rest.isEmpty then offset else offset + 1

def scanExponent (rest : List Char) (offset : Nat) :
    Except Nat (Option (Nat × Bool × List Char)) :=
  match rest with
  | mark :: rest =>
      if mark = 'e' || mark = 'E' then
        let (signWidth, negative, digits) := match rest with
          | '-' :: digits => (1, true, digits)
          | '+' :: digits => (1, false, digits)
          | digits => (0, false, digits)
        let read := digits.takeWhile isDigit
        if read.isEmpty then .error (nextByte digits (offset + 1 + signWidth))
        else .ok (some (1 + signWidth, negative, read))
      else
        .ok none
  | [] => .ok none

def scanNumberParts (chars : List Char) (offset : Nat) : Except Nat NumberParts := do
  let negative := chars.head? = some '-'
  let signWidth := if negative then 1 else 0
  let unsigned := chars.drop signWidth
  let offset := offset + signWidth
  let whole := unsigned.takeWhile isDigit
  if whole.isEmpty then
    throw (nextByte unsigned offset)
  if whole.head? = some '0' && 1 < whole.length then
    throw (offset + 2)
  let rest := unsigned.drop whole.length
  let offset := offset + whole.length
  match rest with
  | '.' :: rest =>
      let fraction := rest.takeWhile isDigit
      if fraction.isEmpty then
        throw (nextByte rest (offset + 1))
      let exponent ← scanExponent (rest.drop fraction.length) (offset + 1 + fraction.length)
      return { negative, whole, fraction := some fraction, exponent }
  | rest =>
      let exponent ← scanExponent rest offset
      return { negative, whole, fraction := none, exponent }

def scanNumber (first : Char) (rest : List Char) (offset : Nat) : Scan :=
  match scanNumberParts (first :: rest) offset with
  | .error fault => .fault first offset fault fault
  | .ok parts =>
      let value := match parts.integer? with
        | some number => integer number
        | none => decimal (String.ofList ((first :: rest).take parts.width))
      .ascii (.scalar value (parts.refusal? offset)) offset parts.width

/-! ### Strings -/

def simpleEscape? (c : Char) : Option Char :=
  match c with
  | '\x22' => some '\x22'
  | '\\' => some '\\'
  | '/' => some '/'
  | 'b' => some '\x08'
  | 'f' => some '\x0c'
  | 'n' => some '\n'
  | 'r' => some '\r'
  | 't' => some '\t'
  | _ => none

/-- What has been read of a string: the bytes and characters after the opening
quote, the text so far in reverse, a high surrogate that waits for its partner,
and the first place that a reader who keeps the text refuses. -/
structure StringScan where
  width : Nat
  offset : Nat
  reversed : List Char
  high : Option Nat
  refusal : Option Nat

namespace StringScan

/-- Takes a plain character or a one-letter escape, after which a waiting
surrogate stays without partner; `refused` is the place that shows it. -/
def push (scan : StringScan) (c : Char) (width bytes refused : Nat) : StringScan :=
  { width := scan.width + width
    offset := scan.offset + bytes
    reversed := c :: scan.reversed
    high := none
    refusal := scan.refusal <|> (scan.high.map fun _ => refused) }

def pushUnit (scan : StringScan) (unit : Nat) : StringScan :=
  let width := scan.width + 6
  let offset := scan.offset + 6
  match scan.high with
  | some high =>
      if 0xDC00 ≤ unit && unit ≤ 0xDFFF then
        let point := 0x10000 + (high - 0xD800) * 0x400 + (unit - 0xDC00)
        { scan with width, offset, high := none, reversed := Char.ofNat point :: scan.reversed }
      else
        -- Whoever keeps the text stops here, so both units may be dropped.
        { scan with width, offset, high := none, refusal := scan.refusal <|> some offset }
  | none =>
      if 0xDC00 ≤ unit && unit ≤ 0xDFFF then
        { scan with width, offset, refusal := scan.refusal <|> some offset }
      else if 0xD800 ≤ unit && unit ≤ 0xDBFF then
        { scan with width, offset, high := some unit }
      else
        { scan with width, offset, reversed := Char.ofNat unit :: scan.reversed }

/-- A string that goes wrong. A reader who keeps the text stops at its first
refusal, which for a waiting surrogate is the place `kept`. -/
def fault (scan : StringScan) (kept skipped : Nat) : Scan :=
  .fault '\x22' scan.offset (scan.refusal.getD kept) skipped

end StringScan

def scanString : List Char → StringScan → Scan
  | [], scan => scan.fault scan.offset scan.offset
  | '\x22' :: _, scan =>
      let closed := scan.push '\x22' 1 1 (scan.offset + 1)
      { token := .scalar (string (String.ofList scan.reversed.reverse)) closed.refusal
        width := 1 + closed.width
        offset := closed.offset }
  | ['\\'], scan => scan.fault (scan.offset + 1) (scan.offset + 1)
  | '\\' :: 'u' :: a :: b :: c :: d :: rest, scan =>
      match hexNumber? [a, b, c, d] with
      | some unit => scanString rest (scan.pushUnit unit)
      | none =>
          let place := scan.offset + 2 + min 4 (String.ofList [a, b, c, d]).utf8ByteSize
          scan.fault place place
  | '\\' :: 'u' :: short, scan =>
      let place := scan.offset + 2 + min 4 (String.ofList short).utf8ByteSize
      scan.fault place place
  | '\\' :: letter :: rest, scan =>
      match simpleEscape? letter with
      | some c => scanString rest (scan.push c 2 2 (scan.offset + 2))
      | none => scan.fault (scan.offset + 2) (scan.offset + 2)
  | c :: rest, scan =>
      if c.toNat < 0x20 then
        scan.fault (scan.offset + 1) scan.offset
      else
        scanString rest (scan.push c 1 c.utf8Size (scan.offset + 1))

/-! ### The token list -/

def isSpace (c : Char) : Bool :=
  c = ' ' || c = '\n' || c = '\t' || c = '\r'

def scanToken (first : Char) (rest : List Char) (offset : Nat) : Scan :=
  match first with
  | '\x7b' => .ascii .openBrace offset 1
  | '\x7d' => .ascii .closeBrace offset 1
  | '[' => .ascii .openBracket offset 1
  | ']' => .ascii .closeBracket offset 1
  | ',' => .ascii .comma offset 1
  | ':' => .ascii .colon offset 1
  | 'n' => scanWord 'n' "ull".toList null rest offset
  | 't' => scanWord 't' "rue".toList (boolean true) rest offset
  | 'f' => scanWord 'f' "alse".toList (boolean false) rest offset
  | '\x22' =>
      scanString rest
        { width := 0, offset := offset + 1, reversed := [], high := none, refusal := none }
  | other =>
      if other = '-' || isDigit other then
        scanNumber other rest offset
      else
        .fault other offset (offset + 1) (offset + 1)

/-- The tokens of a text from a byte offset on. The list ends with the end of the
text or with the first text that is no token. -/
def lexemesFrom (chars : List Char) (offset : Nat) : List Lexeme :=
  match chars with
  | [] => [⟨⟨offset, offset⟩, .finish⟩]
  | first :: rest =>
      if isSpace first then
        lexemesFrom rest (offset + 1)
      else
        let scan := scanToken first rest offset
        let lexeme : Lexeme := ⟨⟨offset, offset + 1⟩, scan.token⟩
        match scan.token with
        | .broken _ _ _ => [lexeme]
        | _ => lexeme :: lexemesFrom (rest.drop (scan.width - 1)) scan.offset
termination_by chars.length
decreasing_by all_goals (simp only [List.length_cons, List.length_drop]; omega)

def lexemes (text : String) : List Lexeme :=
  lexemesFrom text.toList 0

end Json
end BuildNotices
