import BuildNotices.Text.Blank
import BuildNotices.Time.Calendar
import BuildNotices.Time.Span
/-!
Instants and their RFC 3339 texts.

An instant counts seconds from the first of January 1970 in UTC. Inside a leap
second the count stays at the second before and the nanoseconds run on past one
billion. Texts are read leniently: blanks around the parts, short numbers, a
space for the `T`, the word `UTC`, and an offset without colon are accepted. They
are written in one way, in UTC with a `Z` and as few fraction digits as needed in
groups of three.
-/

namespace BuildNotices

open Text

structure Instant where
  seconds : Int
  nanoseconds : Nat
deriving Repr, DecidableEq, Inhabited

namespace Instant

/-- The seconds since midnight. -/
def clock (instant : Instant) : Nat :=
  (instant.seconds.fmod 86400).toNat

def isInLeapSecond (instant : Instant) : Bool :=
  1000000000 ≤ instant.nanoseconds

/-- The leap second between two times of day, which the count of seconds passes over. It is
known only from the one of the two that lies in it, and only the times of day are compared. -/
def leapSecondSince (instant start : Instant) : Int :=
  if start.clock < instant.clock && start.isInLeapSecond then 1
  else if instant.clock < start.clock && instant.isInLeapSecond then -1
  else 0

/-- The time from `start` to an instant; none of it when the start lies in the future. -/
def elapsedSince (instant start : Instant) : TimeSpan :=
  ⟨((instant.seconds - start.seconds + instant.leapSecondSince start) * 1000000000 +
    (instant.nanoseconds - start.nanoseconds : Int)).toNat⟩

/-! ### Writing -/

/-- A year in four digits; outside of 0 to 9999 it carries a sign. -/
def yearText (year : Int) : String :=
  if 0 ≤ year && year ≤ 9999 then padded 4 year.toNat
  else if year < 0 then "-" ++ padded 4 year.natAbs
  else "+" ++ padded 4 year.natAbs

def fractionText (nanoseconds : Nat) : String :=
  if nanoseconds = 0 then ""
  else if nanoseconds % 1000000 = 0 then "." ++ padded 3 (nanoseconds / 1000000)
  else if nanoseconds % 1000 = 0 then "." ++ padded 6 (nanoseconds / 1000)
  else "." ++ padded 9 nanoseconds

def text (instant : Instant) : String :=
  let date := Date.ofDayNumber (instant.seconds.fdiv 86400)
  let second := instant.clock
  let leap := instant.nanoseconds / 1000000000
  yearText date.year ++ "-" ++ padded 2 date.month ++ "-" ++ padded 2 date.day ++ "T" ++
    padded 2 (second / 3600) ++ ":" ++ padded 2 (second % 3600 / 60) ++ ":" ++
    padded 2 (second % 60 + leap) ++ fractionText (instant.nanoseconds % 1000000000) ++ "Z"

/-! ### Reading -/

abbrev Part (α : Type) : Type := List Char → Option (α × List Char)

def number (width : Nat) : Part Nat := fun chars =>
  let chars := chars.dropWhile isBlank
  let digits := (chars.take width).takeWhile isDigit
  if digits.isEmpty then none else some (decimalValue digits, chars.drop digits.length)

def year : Part Int := fun chars =>
  match chars.dropWhile isBlank with
  | '-' :: rest => (signed rest).map fun (value, behind) => (-(value : Int), behind)
  | '+' :: rest => (signed rest).map fun (value, behind) => ((value : Int), behind)
  | unsigned => (number 4 unsigned).map fun (value, behind) => ((value : Int), behind)
where
  signed (chars : List Char) : Option (Nat × List Char) :=
    let digits := chars.takeWhile isDigit
    if digits.isEmpty then none else some (decimalValue digits, chars.drop digits.length)

def separator (mark : Char) : Part Unit := fun chars =>
  match chars.dropWhile isBlank with
  | c :: rest => if c = mark then some ((), rest) else none
  | [] => none

/-- Reads the fraction of a second in nanoseconds; digits behind the ninth are dropped. -/
def fraction : Part Nat := fun chars =>
  match chars with
  | '.' :: rest =>
      let digits := rest.takeWhile isDigit
      if digits.isEmpty then
        none
      else
        let kept := digits.take 9
        some (decimalValue kept * Nat.pow 10 (9 - kept.length), rest.drop digits.length)
  | rest => some (0, rest)

def twoDigits (highest : Char) : Part Nat := fun chars =>
  match chars with
  | tens :: units :: rest =>
      if isDigit tens && tens ≤ highest && isDigit units then
        some (decimalValue [tens, units], rest)
      else
        none
  | _ => none

def offset : Part Int := fun chars =>
  let chars := chars.dropWhile isBlank
  if (chars.take 3).map Char.toUpper = ['U', 'T', 'C'] then
    some (0, chars.drop 3)
  else
    match chars with
    | 'Z' :: rest => some (0, rest)
    | 'z' :: rest => some (0, rest)
    | '+' :: rest => distance 1 rest
    | '-' :: rest => distance (-1) rest
    | '\u2212' :: rest => distance (-1) rest
    | _ => none
where
  distance (sign : Int) (chars : List Char) : Option (Int × List Char) := do
    let (hours, rest) ← twoDigits '9' chars
    let (minutes, rest) ← twoDigits '5' (rest.dropWhile fun c => c = ':' || isBlank c)
    let seconds := hours * 3600 + minutes * 60
    if seconds < 86400 then some (sign * seconds, rest) else none

def yearRange : Int × Int := (-262143, 262142)

def readableYear (year : Int) : Bool :=
  yearRange.1 ≤ year && year ≤ yearRange.2

def dateEnd : Part Unit := fun chars =>
  match chars with
  | 'T' :: rest => some ((), rest)
  | 't' :: rest => some ((), rest)
  | ' ' :: rest => some ((), rest)
  | _ => none

def parse? (text : String) : Option Instant := do
  let (year, rest) ← year text.toList
  let (_, rest) ← separator '-' rest
  let (month, rest) ← number 2 rest
  let (_, rest) ← separator '-' rest
  let (day, rest) ← number 2 rest
  let (_, rest) ← dateEnd rest
  let (hour, rest) ← number 2 rest
  let (_, rest) ← separator ':' rest
  let (minute, rest) ← number 2 rest
  let (_, rest) ← separator ':' rest
  let (second, rest) ← number 2 rest
  let (nanoseconds, rest) ← fraction rest
  let (offset, rest) ← offset rest
  let date : Date := { year, month, day }
  guard (rest.all isBlank && date.isValid && readableYear year)
  guard (hour ≤ 23 && minute ≤ 59 && second ≤ 60)
  -- A leap second stays in the second before it, and its own length goes to the nanoseconds.
  let clock := hour * 3600 + minute * 60 + min second 59
  let seconds := date.dayNumber * 86400 + clock - offset
  guard (readableYear (Date.ofDayNumber (seconds.fdiv 86400)).year)
  return { seconds, nanoseconds := nanoseconds + (second - 59) * 1000000000 }

end Instant
end BuildNotices
