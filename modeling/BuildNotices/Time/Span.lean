import BuildNotices.Text.Digits
/-!
Lengths of time and their short texts.

A length is shown in at most two units, and the smaller of the two only while the
larger one counts below ten and the smaller one is not zero. What is cut off is
always rounded down. Ten seconds and more are shown without fraction, one second
and more with tenths, a tenth of a second and more with hundredths, and anything
shorter in milliseconds.
-/

namespace BuildNotices

structure TimeSpan where
  nanoseconds : Nat
deriving Repr, DecidableEq, Inhabited

namespace TimeSpan

def ofMilliseconds (milliseconds : Nat) : TimeSpan :=
  ⟨milliseconds * 1000000⟩

def seconds (span : TimeSpan) : Nat :=
  span.nanoseconds / 1000000000

def milliseconds (span : TimeSpan) : Nat :=
  span.nanoseconds % 1000000000 / 1000000

/-- A count with its unit, and a smaller unit behind it while the count has one
digit and the smaller count is not zero. -/
def twoUnits (count : Nat) (unit : String) (smaller : Nat) (smallerUnit : String) : String :=
  if count < 10 && smaller ≠ 0 then
    toString count ++ " " ++ unit ++ " " ++ toString smaller ++ " " ++ smallerUnit
  else
    toString count ++ " " ++ unit

/-- The digits of a number of hundredths between ten and ninety-nine, without a zero
at the end. -/
def hundredthsText (hundredths : Nat) : String :=
  if hundredths % 10 = 0 then toString (hundredths / 10) else toString hundredths

def text (span : TimeSpan) : String :=
  let seconds := span.seconds
  let milliseconds := span.milliseconds
  if 86400 ≤ seconds then
    let days := seconds / 86400
    twoUnits days (if days = 1 then "day" else "days") (seconds % 86400 / 3600) "hr"
  else if 3600 ≤ seconds then
    twoUnits (seconds / 3600) "hr" (seconds % 3600 / 60) "min"
  else if 60 ≤ seconds then
    twoUnits (seconds / 60) "min" (seconds % 60) "sec"
  else if 10 ≤ seconds then
    toString seconds ++ " sec"
  else if 1 ≤ seconds then
    if milliseconds / 100 = 0 then
      toString seconds ++ " sec"
    else
      toString seconds ++ "." ++ toString (milliseconds / 100) ++ " sec"
  else if 100 ≤ milliseconds then
    "0." ++ hundredthsText (milliseconds / 10) ++ " sec"
  else
    toString milliseconds ++ " ms"

example : (ofMilliseconds 42).text = "42 ms" := by decide

example : (ofMilliseconds 3900).text = "3.9 sec" := by decide

example : (ofMilliseconds 125000).text = "2 min 5 sec" := by decide

end TimeSpan
end BuildNotices
