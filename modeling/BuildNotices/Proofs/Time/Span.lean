import BuildNotices.Proofs.Text.Digits
import BuildNotices.Proofs.Text.Search
import BuildNotices.Time.Span
import Mathlib.Data.List.Basic
import Mathlib.Tactic.Ring
import Mathlib.Tactic.SplitIfs
/-!
Short texts of lengths of time, read back.

A short text tells its length of time rounded down, and how far it is rounded only depends on how
long it is: the longer the time, the coarser the text. So texts never tell too much, and of two
lengths of time the longer one is never told to be the shorter one.
-/

namespace BuildNotices
namespace TimeSpan

open Text

/-! ### Reading short texts -/

def millisecond : Nat := 1000000

def second : Nat := 1000 * millisecond

def minute : Nat := 60 * second

def hour : Nat := 60 * minute

def day : Nat := 24 * hour

def units : List (String × Nat) :=
  [("day", day), ("days", day), ("hr", hour), ("min", minute), ("sec", second),
    ("ms", millisecond)]

def unitLength? (name : List Char) : Option Nat :=
  units.lookup (String.ofList name)

def number? (digits : List Char) : Option Nat :=
  if digits ≠ [] ∧ digits.all isDigit = true then some (decimalValue digits) else none

/-- The nanoseconds of a count with its unit. Only seconds may have a fraction. -/
def amount? (count unit : List Char) : Option Nat :=
  match fields '.' count with
  | [whole] => do
      let size ← number? whole
      let length ← unitLength? unit
      return size * length
  | [whole, fraction] =>
      if unit = "sec".toList ∧ fraction.length ≤ 9 then do
        let size ← number? whole
        let part ← number? fraction
        return size * second + part * Nat.pow 10 (9 - fraction.length)
      else
        none
  | _ => none

/-- The sum of counts that are each followed by a unit. -/
def total? : (words : List (List Char)) → Option Nat
  | [] => some 0
  | [_] => none
  | count :: unit :: rest => do
      let first ← amount? count unit
      let others ← total? rest
      return first + others

def words (text : String) : List (List Char) :=
  fields ' ' text.toList

def read? (text : String) : Option TimeSpan :=
  (total? (words text)).map TimeSpan.mk

example : read? "2 min 5.25 sec" = some (ofMilliseconds 125250) := by decide

/-! ### Rounding -/

/-- From a length on, times are rounded down to multiples of a grain. -/
structure Scale where
  start : Nat
  grain : Nat

def grainOf : (scales : List Scale) → (size : Nat) → Nat
  | [], _ => 1
  | scale :: rest, size => if scale.start ≤ size then scale.grain else grainOf rest size

def scales : List Scale :=
  [⟨10 * day, day⟩, ⟨10 * hour, hour⟩, ⟨10 * minute, minute⟩, ⟨10 * second, second⟩,
    ⟨second, second / 10⟩, ⟨second / 10, second / 100⟩, ⟨0, millisecond⟩]

/-- How far a length of time is rounded in its text. -/
def grain (span : TimeSpan) : Nat :=
  grainOf scales span.nanoseconds

def roundedDown (span : TimeSpan) : TimeSpan :=
  ⟨span.nanoseconds / span.grain * span.grain⟩

/-- Rounding down keeps the order even where the grain changes, since a scale starts at a multiple
of its grain. -/
theorem rounded_le_rounded {scales : List Scale}
    (fitting : ∀ scale ∈ scales, scale.grain ∣ scale.start) {first second : Nat}
    (ordered : first ≤ second) :
    first / grainOf scales first * grainOf scales first ≤
      second / grainOf scales second * grainOf scales second := by
  induction scales with
  | nil => simpa [grainOf] using ordered
  | cons scale rest ih =>
      obtain ⟨fits, others⟩ := List.forall_mem_cons.mp fitting
      by_cases long : scale.start ≤ second
      · by_cases both : scale.start ≤ first
        · rw [grainOf, if_pos both, grainOf, if_pos long]
          exact Nat.mul_le_mul_right _ (Nat.div_le_div_right ordered)
        · calc first / grainOf (scale :: rest) first * grainOf (scale :: rest) first
              ≤ first := Nat.div_mul_le_self _ _
            _ ≤ scale.start := Nat.le_of_not_le both
            _ = scale.start / scale.grain * scale.grain := (Nat.div_mul_cancel fits).symm
            _ ≤ second / scale.grain * scale.grain :=
                Nat.mul_le_mul_right _ (Nat.div_le_div_right long)
            _ = second / grainOf (scale :: rest) second * grainOf (scale :: rest) second := by
                rw [grainOf, if_pos long]
      · have short : ¬ scale.start ≤ first := fun before => long (before.trans ordered)
        rw [grainOf, if_neg short, grainOf, if_neg long]
        exact ih others

theorem roundedDown_mono {first second : TimeSpan}
    (ordered : first.nanoseconds ≤ second.nanoseconds) :
    first.roundedDown.nanoseconds ≤ second.roundedDown.nanoseconds :=
  rounded_le_rounded (by decide) ordered

/-! ### What short texts consist of -/

/-- The words of a short text, and the nanoseconds that they tell. The last unit is not smaller
than the grain of the time. -/
inductive Tells (grain : Nat) : (words : List (List Char)) → (nanoseconds : Nat) → Prop where
  | single (count : Nat) {unit : List Char} {length : Nat}
      (known : unitLength? unit = some length) (fine : grain ≤ length) :
      Tells grain [Nat.toDigits 10 count, unit] (count * length)
  | double (count smaller : Nat) {unit smallerUnit : List Char} {length smallerLength : Nat}
      (known : unitLength? unit = some length)
      (smallerKnown : unitLength? smallerUnit = some smallerLength) (nonzero : smaller ≠ 0)
      (fine : grain ≤ smallerLength) :
      Tells grain [Nat.toDigits 10 count, unit, Nat.toDigits 10 smaller, smallerUnit]
        (count * length + smaller * smallerLength)
  | fraction (count : Nat) {digits : List Char} (numeric : ∀ c ∈ digits, isDigit c = true)
      (short : digits.length ≤ 9) {last : Char} (ends : digits.getLast? = some last)
      (nonzero : last ≠ '0') (fine : grain ≤ second) :
      Tells grain [Nat.toDigits 10 count ++ '.' :: digits, "sec".toList]
        (count * second + decimalValue digits * Nat.pow 10 (9 - digits.length))

/-- An amount behind the first one is not zero, and a fraction ends with a digit that is not. -/
structure IsTidy (words : List (List Char)) : Prop where
  smaller : ∀ count unit smaller rest, words = count :: unit :: smaller :: rest →
    ∃ size, number? smaller = some size ∧ size ≠ 0
  fraction : ∀ word ∈ words, ∀ whole fraction, word = whole ++ '.' :: fraction →
    ∃ last, fraction.getLast? = some last ∧ isDigit last = true ∧ last ≠ '0'

theorem not_mem_toDigits {c : Char} (other : isDigit c = false) (size : Nat) :
    c ∉ Nat.toDigits 10 size :=
  not_mem_of_numeric (fun _ => isDigit_of_mem_toDigits) other

theorem number?_of_numeric {digits : List Char} (numeric : ∀ c ∈ digits, isDigit c = true)
    (filled : digits ≠ []) : number? digits = some (decimalValue digits) :=
  if_pos ⟨filled, List.all_eq_true.mpr numeric⟩

theorem number?_toDigits (size : Nat) : number? (Nat.toDigits 10 size) = some size := by
  rw [number?_of_numeric (fun _ => isDigit_of_mem_toDigits) Nat.toDigits_ne_nil,
    decimalValue_toDigits]

theorem amount?_toDigits (count : Nat) {unit : List Char} {length : Nat}
    (known : unitLength? unit = some length) :
    amount? (Nat.toDigits 10 count) unit = some (count * length) := by
  rw [amount?, fields_of_not_mem (not_mem_toDigits (by decide) count)]
  simp only [number?_toDigits, known, Option.bind_eq_bind, Option.bind_some, Option.pure_def]

/-- The name of a unit is a single word. -/
theorem solid_of_unitLength? {unit : List Char} {length : Nat}
    (known : unitLength? unit = some length) : '.' ∉ unit ∧ ' ' ∉ unit := by
  have every : ∀ named ∈ units, '.' ∉ named.1.toList ∧ ' ' ∉ named.1.toList := by decide
  obtain ⟨before, after, listed, _⟩ := List.lookup_eq_some_iff.mp known
  have solid := every (String.ofList unit, length) (listed ▸ List.mem_append_cons_self)
  rwa [String.toList_ofList] at solid

section Words

variable {grain nanoseconds : Nat} {words : List (List Char)}

theorem Tells.total?_eq (tells : Tells grain words nanoseconds) :
    total? words = some nanoseconds := by
  cases tells with
  | single count known fine =>
      simp only [total?, amount?_toDigits count known, Option.bind_eq_bind, Option.bind_some,
        Option.pure_def, Nat.add_zero]
  | double count smaller known smallerKnown nonzero fine =>
      simp only [total?, amount?_toDigits count known, amount?_toDigits smaller smallerKnown,
        Option.bind_eq_bind, Option.bind_some, Option.pure_def, Nat.add_zero]
  | @fraction count digits numeric short last ends nonzero fine =>
      have filled : digits ≠ [] := by
        rintro rfl
        cases ends
      have split : fields '.' (Nat.toDigits 10 count ++ '.' :: digits) =
          [Nat.toDigits 10 count, digits] := by
        rw [fields_append, fields_of_not_mem (not_mem_toDigits (by decide) count),
          fields_of_not_mem (not_mem_of_numeric numeric (by decide)), List.singleton_append]
      have amount : amount? (Nat.toDigits 10 count ++ '.' :: digits) "sec".toList =
          some (count * second + decimalValue digits * Nat.pow 10 (9 - digits.length)) := by
        rw [amount?, split]
        simp only [true_and, if_pos short, number?_toDigits, number?_of_numeric numeric filled,
          Option.bind_eq_bind, Option.bind_some, Option.pure_def]
      simp only [total?, amount, Option.bind_eq_bind, Option.bind_some, Option.pure_def,
        Nat.add_zero]

/-- A text ends with its last unit. -/
theorem Tells.exists_lastUnit (tells : Tells grain words nanoseconds) :
    ∃ unit length, words.getLast? = some unit ∧ unitLength? unit = some length ∧
      grain ≤ length := by
  cases tells with
  | single count known fine => exact ⟨_, _, rfl, known, fine⟩
  | double count smaller known smallerKnown nonzero fine => exact ⟨_, _, rfl, smallerKnown, fine⟩
  | fraction count numeric short ends nonzero fine => exact ⟨_, _, rfl, rfl, fine⟩

theorem Tells.isTidy (tells : Tells grain words nanoseconds) : IsTidy words := by
  have pointless {word whole fraction : List Char} (absent : '.' ∉ word)
      (same : word = whole ++ '.' :: fraction) : False :=
    absent (same ▸ List.mem_append_cons_self)
  cases tells with
  | single count known fine =>
      constructor
      · rintro _ _ _ _ ⟨⟩
      · intro word member whole fraction same
        simp only [List.mem_cons, List.not_mem_nil, or_false] at member
        rcases member with rfl | rfl
        · exact (pointless (not_mem_toDigits (by decide) count) same).elim
        · exact (pointless (solid_of_unitLength? known).1 same).elim
  | double count smaller known smallerKnown nonzero fine =>
      constructor
      · rintro _ _ _ _ ⟨⟩
        exact ⟨smaller, number?_toDigits smaller, nonzero⟩
      · intro word member whole fraction same
        have absent : '.' ∉ word := by
          simp only [List.mem_cons, List.not_mem_nil, or_false] at member
          rcases member with rfl | rfl | rfl | rfl
          · exact not_mem_toDigits (by decide) count
          · exact (solid_of_unitLength? known).1
          · exact not_mem_toDigits (by decide) smaller
          · exact (solid_of_unitLength? smallerKnown).1
        exact (pointless absent same).elim
  | @fraction count digits numeric short last ends nonzero fine =>
      constructor
      · rintro _ _ _ _ ⟨⟩
      · intro word member whole fraction same
        simp only [List.mem_cons, List.not_mem_nil, or_false] at member
        rcases member with rfl | rfl
        · have cut := (List.append_cons_inj_of_notMem (not_mem_toDigits (by decide) count)
            (not_mem_of_numeric numeric (by decide))).mp same
          rw [← cut.2.2]
          exact ⟨last, ends, numeric last (List.mem_of_getLast? ends), nonzero⟩
        · exact (pointless (by decide) same).elim

end Words

/-! ### The shapes of short texts -/

section Shapes

variable {unit smallerUnit : String} {grain length smallerLength : Nat}

theorem words_append {first : List Char} (solid : ' ' ∉ first) (text : String) :
    words (String.ofList first ++ " " ++ text) = first :: words text := by
  have space : " ".toList = [' '] := rfl
  rw [words, String.toList_append, String.toList_append, String.toList_ofList, space,
    List.append_assoc, List.singleton_append, fields_append, fields_of_not_mem solid,
    List.singleton_append, words]

theorem words_of_solid (solid : ' ' ∉ unit.toList) : words unit = [unit.toList] :=
  fields_of_not_mem solid

theorem toString_eq (size : Nat) : toString size = String.ofList (Nat.toDigits 10 size) := by
  rw [← toList_toString, String.ofList_toList]

theorem tells_single (count : Nat) (known : unitLength? unit.toList = some length)
    (fine : grain ≤ length) :
    Tells grain (words (toString count ++ " " ++ unit)) (count * length) := by
  rw [toString_eq, words_append (not_mem_toDigits (by decide) count),
    words_of_solid (solid_of_unitLength? known).2]
  exact .single count known fine

theorem tells_joined (count : Nat) (known : unitLength? unit.toList = some length)
    (fine : grain ≤ length) {ending : String} (joined : ending = " " ++ unit) :
    Tells grain (words (toString count ++ ending)) (count * length) := by
  rw [joined, ← String.append_assoc]
  exact tells_single count known fine

theorem tells_twoUnits (count smaller : Nat) (known : unitLength? unit.toList = some length)
    (smallerKnown : unitLength? smallerUnit.toList = some smallerLength)
    (fine : count < 10 → grain ≤ smallerLength) (coarse : grain ≤ length) :
    Tells grain (words (twoUnits count unit smaller smallerUnit))
      (count * length + if count < 10 then smaller * smallerLength else 0) := by
  unfold twoUnits
  split
  next both =>
    rw [Bool.and_eq_true, decide_eq_true_iff, decide_eq_true_iff] at both
    have whole : toString count ++ " " ++ unit ++ " " ++ toString smaller ++ " " ++ smallerUnit =
        String.ofList (Nat.toDigits 10 count) ++ " " ++ (String.ofList unit.toList ++ " " ++
          (String.ofList (Nat.toDigits 10 smaller) ++ " " ++ smallerUnit)) := by
      simp only [toString_eq, String.ofList_toList, String.append_assoc]
    rw [if_pos both.1, whole, words_append (not_mem_toDigits (by decide) count),
      words_append (solid_of_unitLength? known).2,
      words_append (not_mem_toDigits (by decide) smaller),
      words_of_solid (solid_of_unitLength? smallerKnown).2]
    exact .double count smaller known smallerKnown both.2 (fine both.1)
  next single =>
    rw [Bool.and_eq_true, decide_eq_true_iff, decide_eq_true_iff, not_and, not_not] at single
    have nothing : (if count < 10 then smaller * smallerLength else 0) = 0 := by
      by_cases few : count < 10
      · rw [if_pos few, single few, Nat.zero_mul]
      · rw [if_neg few]
    rw [nothing, Nat.add_zero]
    exact tells_single count known coarse

/-- A part that does not end in zero is the fraction of a text. -/
theorem tells_fraction (count : Nat) {part places : Nat}
    (placed : (Nat.toDigits 10 part).length = places) (few : places ≤ 9)
    (nonzero : part % 10 ≠ 0) (fine : grain ≤ second) :
    Tells grain (words (toString count ++ "." ++ toString part ++ " sec"))
      (count * second + part * Nat.pow 10 (9 - places)) := by
  have solid : ' ' ∉ Nat.toDigits 10 count ++ '.' :: Nat.toDigits 10 part := by
    rw [List.mem_append, List.mem_cons, not_or, not_or]
    exact ⟨not_mem_toDigits (by decide) count, by decide, not_mem_toDigits (by decide) part⟩
  have whole : toString count ++ "." ++ toString part ++ " sec" =
      String.ofList (Nat.toDigits 10 count ++ '.' :: Nat.toDigits 10 part) ++ " " ++ "sec" := by
    rw [← String.toList_inj, toString_eq, toString_eq]
    simp only [String.toList_append, String.toList_ofList, List.append_assoc]
    rfl
  have value : part * Nat.pow 10 (9 - places) = decimalValue (Nat.toDigits 10 part) *
      Nat.pow 10 (9 - (Nat.toDigits 10 part).length) := by
    rw [decimalValue_toDigits, placed]
  rw [whole, words_append solid, value]
  exact .fraction count (fun _ => isDigit_of_mem_toDigits) (placed.trans_le few)
    (getLast?_toDigits part) (digitChar_ne_zero (Nat.mod_lt part (by decide)) nonzero) fine

theorem length_toDigits_tenths {part : Nat} (small : part < 10) :
    (Nat.toDigits 10 part).length = 1 := by
  rw [Nat.toDigits_of_lt_base small]
  rfl

theorem tells_tenths (count : Nat) {tenths : Nat} (nonzero : tenths ≠ 0) (small : tenths < 10)
    (fine : grain ≤ second) :
    Tells grain (words (toString count ++ "." ++ toString tenths ++ " sec"))
      (count * second + tenths * 100000000) :=
  tells_fraction count (length_toDigits_tenths small) (by decide)
    (by rwa [Nat.mod_eq_of_lt small]) fine

theorem tells_hundredths {hundredths : Nat} (large : 10 ≤ hundredths) (small : hundredths < 100)
    (fine : grain ≤ second) :
    Tells grain (words ("0." ++ hundredthsText hundredths ++ " sec")) (hundredths * 10000000) := by
  have front : "0." = toString 0 ++ "." := by decide
  unfold hundredthsText
  split
  next round =>
    have value : hundredths * 10000000 = 0 * second + hundredths / 10 * 100000000 := by omega
    rw [front, value]
    exact tells_tenths 0 (by omega) (by omega) fine
  next uneven =>
    have placed : (Nat.toDigits 10 hundredths).length = 2 := by
      rw [Nat.toDigits_of_base_le (by decide) large, List.length_append,
        length_toDigits_tenths (by omega)]
      rfl
    have value : hundredths * 10000000 = 0 * second + hundredths * Nat.pow 10 (9 - 2) := by
      rw [Nat.zero_mul, Nat.zero_add]
    rw [front, value]
    exact tells_fraction 0 placed (by decide) uneven fine

end Shapes

/-! ### Grains -/

section Grains

variable (span : TimeSpan)

theorem seconds_eq : span.seconds = span.nanoseconds / 1000000000 := rfl

theorem milliseconds_eq : span.milliseconds = span.nanoseconds % 1000000000 / 1000000 := rfl

theorem grain_eq :
    span.grain =
      if 864000000000000 ≤ span.nanoseconds then 86400 * second
      else if 36000000000000 ≤ span.nanoseconds then 3600 * second
      else if 600000000000 ≤ span.nanoseconds then 60 * second
      else if 10000000000 ≤ span.nanoseconds then 1 * second
      else if 1000000000 ≤ span.nanoseconds then 100000000
      else if 100000000 ≤ span.nanoseconds then 10000000
      else 1000000 := rfl

theorem grain_positive : 0 < span.grain := by
  rw [grain_eq]
  split_ifs <;> decide

variable {span}

theorem grain_days (long : 864000 ≤ span.seconds) : span.grain = 86400 * second := by
  have size := seconds_eq span
  rw [grain_eq, if_pos (by omega)]

theorem grain_hours (long : 36000 ≤ span.seconds) (short : span.seconds < 864000) :
    span.grain = 3600 * second := by
  have size := seconds_eq span
  rw [grain_eq, if_neg (by omega), if_pos (by omega)]

theorem grain_minutes (long : 600 ≤ span.seconds) (short : span.seconds < 36000) :
    span.grain = 60 * second := by
  have size := seconds_eq span
  rw [grain_eq, if_neg (by omega), if_neg (by omega), if_pos (by omega)]

theorem grain_seconds (long : 10 ≤ span.seconds) (short : span.seconds < 600) :
    span.grain = 1 * second := by
  have size := seconds_eq span
  rw [grain_eq, if_neg (by omega), if_neg (by omega), if_neg (by omega), if_pos (by omega)]

theorem grain_tenths (long : 1 ≤ span.seconds) (short : span.seconds < 10) :
    span.grain = 100000000 := by
  have size := seconds_eq span
  rw [grain_eq, if_neg (by omega), if_neg (by omega), if_neg (by omega), if_neg (by omega),
    if_pos (by omega)]

theorem grain_hundredths (long : 100 ≤ span.milliseconds) (short : span.seconds < 1) :
    span.grain = 10000000 := by
  have size := seconds_eq span
  have part := milliseconds_eq span
  rw [grain_eq, if_neg (by omega), if_neg (by omega), if_neg (by omega), if_neg (by omega),
    if_neg (by omega), if_pos (by omega)]

theorem grain_milliseconds (small : span.milliseconds < 100) (short : span.seconds < 1) :
    span.grain = 1000000 := by
  have size := seconds_eq span
  have part := milliseconds_eq span
  rw [grain_eq, if_neg (by omega), if_neg (by omega), if_neg (by omega), if_neg (by omega),
    if_neg (by omega), if_neg (by omega)]

end Grains

/-! ### What short texts tell -/

section Rounding

variable {span : TimeSpan}

theorem roundedDown_of_grain {grain : Nat} (found : span.grain = grain) :
    span.roundedDown.nanoseconds = span.nanoseconds / grain * grain := by
  rw [roundedDown, found]

/-- Rounding to a number of seconds only looks at the whole seconds. -/
theorem roundedDown_of_seconds {size : Nat} (found : span.grain = size * second) :
    span.roundedDown.nanoseconds = span.seconds / size * (size * second) := by
  have whole : span.seconds / size = span.nanoseconds / (size * second) := by
    rw [Nat.mul_comm size second, ← Nat.div_div_eq_div_mul]
    rfl
  rw [roundedDown_of_grain found, whole]

/-- A count and a smaller unit behind it tell the time up to the smaller unit. -/
theorem roundedDown_twoUnits {large small : Nat} (divides : small ∣ large)
    (few : span.seconds / large < 10 → span.grain = small * second)
    (many : ¬ span.seconds / large < 10 → span.grain = large * second) :
    span.roundedDown.nanoseconds =
      span.seconds / large * (large * second) +
        if span.seconds / large < 10 then
          span.seconds % large / small * (small * second) else 0 := by
  by_cases single : span.seconds / large < 10
  · obtain ⟨ratio, rfl⟩ := divides
    rw [if_pos single, roundedDown_of_seconds (few single), ← Nat.div_div_eq_div_mul,
      Nat.mod_mul_right_div_self]
    calc span.seconds / small * (small * second)
        = (ratio * (span.seconds / small / ratio) + span.seconds / small % ratio) *
            (small * second) := by rw [Nat.div_add_mod]
      _ = span.seconds / small / ratio * (small * ratio * second) +
            span.seconds / small % ratio * (small * second) := by ring
  · rw [if_neg single, Nat.add_zero, roundedDown_of_seconds (many single)]

theorem tells_twoUnits_roundedDown {large small : Nat} {unit smallerUnit : String}
    (known : unitLength? unit.toList = some (large * second))
    (smallerKnown : unitLength? smallerUnit.toList = some (small * second))
    (divides : small ∣ large) (positive : 0 < large)
    (few : span.seconds / large < 10 → span.grain = small * second)
    (many : ¬ span.seconds / large < 10 → span.grain = large * second) :
    Tells span.grain
      (words (twoUnits (span.seconds / large) unit (span.seconds % large / small) smallerUnit))
      span.roundedDown.nanoseconds := by
  rw [roundedDown_twoUnits divides few many]
  refine tells_twoUnits _ _ known smallerKnown (fun single => (few single).le) ?_
  by_cases single : span.seconds / large < 10
  · rw [few single]
    exact Nat.mul_le_mul_right _ (Nat.le_of_dvd positive divides)
  · exact (many single).le

theorem roundedDown_tenths (long : 1 ≤ span.seconds) (short : span.seconds < 10) :
    span.roundedDown.nanoseconds =
      span.seconds * second + span.milliseconds / 100 * 100000000 := by
  have size := seconds_eq span
  have part := milliseconds_eq span
  rw [roundedDown_of_grain (grain_tenths long short)]
  simp only [second, millisecond]
  omega

theorem roundedDown_hundredths (long : 100 ≤ span.milliseconds) (short : span.seconds < 1) :
    span.roundedDown.nanoseconds = span.milliseconds / 10 * 10000000 := by
  have size := seconds_eq span
  have part := milliseconds_eq span
  rw [roundedDown_of_grain (grain_hundredths long short)]
  omega

theorem roundedDown_milliseconds (small : span.milliseconds < 100) (short : span.seconds < 1) :
    span.roundedDown.nanoseconds = span.milliseconds * millisecond := by
  have size := seconds_eq span
  have part := milliseconds_eq span
  rw [roundedDown_of_grain (grain_milliseconds small short)]
  simp only [millisecond]
  omega

end Rounding

/-- A text tells its length of time rounded down. -/
theorem tells_text (span : TimeSpan) :
    Tells span.grain (words span.text) span.roundedDown.nanoseconds := by
  have secKnown : unitLength? "sec".toList = some second := rfl
  have msKnown : unitLength? "ms".toList = some millisecond := rfl
  unfold text
  dsimp only
  split
  next days =>
    exact tells_twoUnits_roundedDown (by split <;> rfl) rfl (by decide) (by decide)
      (fun few => grain_hours (by omega) (by omega)) (fun many => grain_days (by omega))
  next underDay =>
    split
    next hours =>
      exact tells_twoUnits_roundedDown rfl rfl (by decide) (by decide)
        (fun few => grain_minutes (by omega) (by omega))
        (fun many => grain_hours (by omega) (by omega))
    next underHour =>
      split
      next minutes =>
        rw [← Nat.div_one (span.seconds % 60)]
        exact tells_twoUnits_roundedDown rfl rfl (Nat.one_dvd 60) (by decide)
          (fun few => grain_seconds (by omega) (by omega))
          (fun many => grain_minutes (by omega) (by omega))
      next underMinute =>
        split
        next seconds =>
          have grain := grain_seconds seconds (by omega)
          rw [roundedDown_of_seconds grain, Nat.div_one, Nat.one_mul]
          exact tells_joined _ secKnown (grain.trans_le (by decide)) rfl
        next underTen =>
          split
          next visible =>
            have fine := (grain_tenths visible (by omega)).trans_le (by decide : _ ≤ second)
            rw [roundedDown_tenths visible (by omega)]
            split
            next round =>
              rw [round, Nat.zero_mul, Nat.add_zero]
              exact tells_joined _ secKnown fine rfl
            next tenths =>
              have part := milliseconds_eq span
              exact tells_tenths _ tenths (by omega) fine
          next underSecond =>
            split
            next hundredths =>
              have part := milliseconds_eq span
              have grain := grain_hundredths hundredths (by omega)
              rw [roundedDown_hundredths hundredths (by omega)]
              exact tells_hundredths (by omega) (by omega) (grain.trans_le (by decide))
            next underTenth =>
              have grain := grain_milliseconds (Nat.lt_of_not_le underTenth) (by omega)
              rw [roundedDown_milliseconds (by omega) (by omega)]
              exact tells_joined _ msKnown (grain.trans_le (by decide)) rfl

theorem read?_text (span : TimeSpan) : read? span.text = some span.roundedDown := by
  rw [read?, (tells_text span).total?_eq]
  rfl

/-- A text tells its length of time rounded down to a grain, so it never tells more, and what it
leaves out is less than its last unit. Of two lengths of time it never tells the longer one to be
shorter. It shows no second amount that is zero, and no fraction without digits or with a zero at
the end. -/
theorem text_tells_rounded_time (span : TimeSpan) :
    read? span.text = some span.roundedDown ∧
      span.roundedDown.nanoseconds ≤ span.nanoseconds ∧
      (∃ unit length, (words span.text).getLast? = some unit ∧ unitLength? unit = some length ∧
        span.nanoseconds < span.roundedDown.nanoseconds + length) ∧
      (∀ longer : TimeSpan, span.nanoseconds ≤ longer.nanoseconds →
        ∃ told toldLonger, read? span.text = some told ∧ read? longer.text = some toldLonger ∧
          told.nanoseconds ≤ toldLonger.nanoseconds) ∧
      IsTidy (words span.text) := by
  refine ⟨read?_text span, Nat.div_mul_le_self _ _, ?_, ?_, (tells_text span).isTidy⟩
  · obtain ⟨unit, length, ends, known, fine⟩ := (tells_text span).exists_lastUnit
    have near : span.nanoseconds < span.roundedDown.nanoseconds + span.grain :=
      Nat.lt_div_mul_add (grain_positive span)
    exact ⟨unit, length, ends, known, near.trans_le (Nat.add_le_add_left fine _)⟩
  · intro longer ordered
    exact ⟨_, _, read?_text span, read?_text longer, roundedDown_mono ordered⟩

example : read? (ofMilliseconds 35999999).text = some (ofMilliseconds 35940000) := by decide

end TimeSpan
end BuildNotices
