import BuildNotices.Time.Calendar
import BuildNotices.Toml.Text
import BuildNotices.Toml.Value
/-!
Numbers and dates of a TOML document.

Digits may be grouped by single underscores. An integer has no leading zero, or a mark
for its base, and fits 64 bits with sign. A number with fraction or exponent must not
overflow above. Dates and times must exist.
-/

namespace BuildNotices
namespace Toml

open Text

def digitGroups (accept : Char → Bool) : Part (List Char) := fun chars =>
  let written := chars.takeWhile fun c => accept c || c = '_'
  let rest := chars.drop written.length
  let groups := fields '_' written
  if groups.any List.isEmpty then none else some (groups.flatten, rest)
where
  fields (separator : Char) (chars : List Char) : List (List Char) :=
    chars.foldr
      (fun c groups =>
        if c = separator then [] :: groups
        else match groups with
          | [] => [[c]]
          | first :: others => (c :: first) :: others)
      [[]]

def valueIn (base : Nat) (digits : List Char) : Nat :=
  digits.foldl (fun value c => base * value + (hexValue? c).getD 0) 0

def isDigitIn (base : Nat) (c : Char) : Bool :=
  (hexValue? c).any (· < base)

def fits64 (value : Int) : Option Int :=
  if -0x8000000000000000 ≤ value && value < 0x8000000000000000 then some value else none

def basedInteger (base : Nat) : Part Value := fun chars => do
  let (digits, rest) ← digitGroups (isDigitIn base) chars
  let value ← fits64 (valueIn base digits)
  return (.integer value, rest)

def sign (chars : List Char) : Bool × List Char :=
  match chars with
  | '-' :: rest => (true, rest)
  | '+' :: rest => (false, rest)
  | rest => (false, rest)

def wholeDigits : Part (List Char) := fun chars => do
  let (digits, rest) ← digitGroups isDigit chars
  guard (digits.length = 1 || digits.head? ≠ some '0')
  return (digits, rest)

def exponent : Part Int := fun chars =>
  match chars with
  | mark :: rest =>
      if mark = 'e' || mark = 'E' then do
        let (negative, rest) := sign rest
        let (digits, rest) ← digitGroups isDigit rest
        let size : Int := decimalValue digits
        return (if negative then -size else size, rest)
      else
        none
  | [] => none

def decimal : Part Value := fun chars => do
  let (negative, unsigned) := sign chars
  let (whole, rest) ← wholeDigits unsigned
  let ofParts (fraction : List Char) (exponent : Int) (rest : List Char) :
      Option (Value × List Char) := do
    guard (negative || !outOfRange (whole ++ fraction) (exponent - fraction.length))
    return (.float (String.ofList (chars.take (chars.length - rest.length))), rest)
  match rest with
  | '.' :: rest =>
      let (fraction, rest) ← digitGroups isDigit rest
      match exponent rest with
      | some (exponent, rest) => ofParts fraction exponent rest
      | none => ofParts fraction 0 rest
  | rest =>
      match exponent rest with
      | some (exponent, rest) => ofParts [] exponent rest
      | none =>
          let size : Int := decimalValue whole
          let value ← fits64 (if negative then -size else size)
          return (.integer value, rest)

def specialFloat : Part Value := fun chars =>
  match (sign chars).2 with
  | 'i' :: 'n' :: 'f' :: rest => some (.float "inf", rest)
  | 'n' :: 'a' :: 'n' :: rest => some (.float "nan", rest)
  | _ => none

/-! ### Dates and times -/

def fixedDigits (width : Nat) : Part Nat := fun chars =>
  let digits := chars.take width
  if digits.length = width && digits.all isDigit then
    some (decimalValue digits, chars.drop width)
  else
    none

def mark (wanted : Char) : Part Unit := fun chars =>
  match chars with
  | c :: rest => if c = wanted then some ((), rest) else none
  | [] => none

def date : Part String := fun chars => do
  let (year, rest) ← fixedDigits 4 chars
  let (_, rest) ← mark '-' rest
  let (month, rest) ← fixedDigits 2 rest
  let (_, rest) ← mark '-' rest
  let (day, rest) ← fixedDigits 2 rest
  let found : Date := { year, month, day }
  guard found.isValid
  return (padded 4 year ++ "-" ++ padded 2 month ++ "-" ++ padded 2 day, rest)

/-- Reads the fraction of a second, to nine digits, and writes it down without zeros at
its end. -/
def secondFraction (chars : List Char) : String × List Char :=
  match chars with
  | '.' :: rest =>
      let digits := rest.takeWhile isDigit
      if digits.isEmpty then
        ("", chars)
      else
        let kept := ((digits.take 9).reverse.dropWhile (· = '0')).reverse
        (if kept.isEmpty then "" else "." ++ String.ofList kept, rest.drop digits.length)
  | _ => ("", chars)

def time : Part String := fun chars => do
  let (hour, rest) ← fixedDigits 2 chars
  let (_, rest) ← mark ':' rest
  let (minute, rest) ← fixedDigits 2 rest
  let (_, rest) ← mark ':' rest
  let (second, rest) ← fixedDigits 2 rest
  guard (hour ≤ 23 && minute ≤ 59 && second ≤ 60)
  let (fraction, rest) := secondFraction rest
  return (padded 2 hour ++ ":" ++ padded 2 minute ++ ":" ++ padded 2 second ++ fraction, rest)

def timeOffset (chars : List Char) : String × List Char :=
  let distance (signText : String) (rest : List Char) : Option (String × List Char) := do
    let (hour, rest) ← fixedDigits 2 rest
    let (_, rest) ← mark ':' rest
    let (minute, rest) ← fixedDigits 2 rest
    guard (hour ≤ 23 && minute ≤ 59)
    return (signText ++ padded 2 hour ++ ":" ++ padded 2 minute, rest)
  match chars with
  | 'Z' :: rest => ("Z", rest)
  | 'z' :: rest => ("Z", rest)
  | '+' :: rest => (distance "+" rest).getD ("", chars)
  | '-' :: rest => (distance "-" rest).getD ("", chars)
  | _ => ("", chars)

def datetime : Part Value := fun chars =>
  match date chars with
  | none => (time chars).map fun (text, rest) => (.datetime text, rest)
  | some (day, rest) =>
      let clock := match rest with
        | 'T' :: behind => time behind
        | 't' :: behind => time behind
        | ' ' :: behind => time behind
        | _ => none
      match clock with
      | none => some (.datetime day, rest)
      | some (clock, rest) =>
          let (offset, rest) := timeOffset rest
          some (.datetime (day ++ "T" ++ clock ++ offset), rest)

def number : Part Value := fun chars =>
  datetime chars <|>
    match chars with
    | '0' :: 'x' :: rest => basedInteger 16 rest
    | '0' :: 'o' :: rest => basedInteger 8 rest
    | '0' :: 'b' :: rest => basedInteger 2 rest
    | _ => decimal chars <|> specialFloat chars

end Toml
end BuildNotices
