import BuildNotices.Json.Token
import BuildNotices.Proofs.Text.Digits
/-!
Numbers in JSON texts.

A number is written as a sign, digits, a fraction and an exponent. Whatever stands behind it, as
long as it does not continue the number, exactly these parts are read.
-/

namespace BuildNotices
namespace Json

open Text

def IsNumeric (digits : List Char) : Prop :=
  digits.isEmpty = false ∧ ∀ c ∈ digits, isDigit c = true

theorem isNumeric_toDigits (size : Nat) : IsNumeric (Nat.toDigits 10 size) :=
  ⟨List.isEmpty_eq_false_iff.mpr Nat.toDigits_ne_nil, fun _ => isDigit_of_mem_toDigits⟩

theorem IsNumeric.exists_cons {digits : List Char} (numeric : IsNumeric digits) :
    ∃ first others, digits = first :: others ∧ isDigit first = true := by
  obtain ⟨filled, each⟩ := numeric
  cases digits with
  | nil => cases filled
  | cons first others => exact ⟨first, others, rfl, each first List.mem_cons_self⟩

/-- What stands behind a number does not continue it. -/
def EndsNumber (rest : List Char) : Prop :=
  ∀ c, rest.head? = some c → isDigit c = false ∧ c ≠ '.' ∧ c ≠ 'e' ∧ c ≠ 'E'

theorem EndsNumber.endsDigits {rest : List Char} (ends : EndsNumber rest) : EndsDigits rest :=
  fun c first => (ends c first).1

theorem endsNumber_cons {c : Char} (digit : isDigit c = false) (point : c ≠ '.')
    (mark : c ≠ 'e') (capital : c ≠ 'E') (rest : List Char) : EndsNumber (c :: rest) := by
  intro first same
  cases same
  exact ⟨digit, point, mark, capital⟩

/-! ### Exponents -/

structure Exponent where
  mark : Char
  sign : Option Char
  digits : List Char

namespace Exponent

structure IsWellFormed (exponent : Exponent) : Prop where
  mark : exponent.mark = 'e' ∨ exponent.mark = 'E'
  sign : exponent.sign = none ∨ exponent.sign = some '+' ∨ exponent.sign = some '-'
  digits : IsNumeric exponent.digits

def chars (exponent : Exponent) : List Char :=
  exponent.mark :: (exponent.sign.toList ++ exponent.digits)

/-- The length of the mark and the sign, whether the exponent is negative, its digits. -/
def parts (exponent : Exponent) : Nat × Bool × List Char :=
  (1 + exponent.sign.toList.length, exponent.sign = some '-', exponent.digits)

end Exponent

variable {rest : List Char}

theorem scanExponent_chars {exponent : Exponent} (wellFormed : exponent.IsWellFormed)
    (ends : EndsDigits rest) (offset : Nat) :
    scanExponent (exponent.chars ++ rest) offset = .ok (some exponent.parts) := by
  obtain ⟨mark, sign, digits⟩ := exponent
  obtain ⟨marked, signed, numeric⟩ := wellFormed
  dsimp only at marked signed numeric
  have isMark : (mark = 'e' || mark = 'E') = true := by
    rcases marked with rfl | rfl <;> rfl
  have read := takeWhile_isDigit_append numeric.2 ends
  rcases signed with rfl | rfl | rfl
  · obtain ⟨first, others, rfl, digit⟩ := numeric.exists_cons
    have minus : first ≠ '-' := by
      rintro rfl
      cases digit
    have plus : first ≠ '+' := by
      rintro rfl
      cases digit
    simp only [Exponent.chars, scanExponent, Option.toList_none, List.nil_append,
      List.cons_append] at read ⊢
    rw [if_pos isMark]
    split
    next same => exact absurd (List.head_eq_of_cons_eq same) minus
    next same => exact absurd (List.head_eq_of_cons_eq same) plus
    next =>
      rw [read]
      rfl
  · simp only [Exponent.chars, scanExponent, Option.toList_some, List.cons_append, List.nil_append]
    rw [if_pos isMark, read, numeric.1]
    rfl
  · simp only [Exponent.chars, scanExponent, Option.toList_some, List.cons_append, List.nil_append]
    rw [if_pos isMark, read, numeric.1]
    rfl

theorem scanExponent_of_ends (ends : EndsNumber rest) (offset : Nat) :
    scanExponent rest offset = .ok none := by
  cases rest with
  | nil => rfl
  | cons c rest =>
      obtain ⟨_, _, mark, capital⟩ := ends c rfl
      simp [scanExponent, mark, capital]

/-! ### Numbers -/

structure Numeral where
  negative : Bool
  whole : List Char
  fraction : Option (List Char)
  exponent : Option Exponent

namespace Numeral

/-- Zeros do not stand in front of other digits. -/
structure IsWellFormed (numeral : Numeral) : Prop where
  whole : IsNumeric numeral.whole
  noZeros : numeral.whole.length = 1 ∨ numeral.whole.head? ≠ some '0'
  fraction : ∀ digits ∈ numeral.fraction, IsNumeric digits
  exponent : ∀ exponent ∈ numeral.exponent, exponent.IsWellFormed

def exponentChars (numeral : Numeral) : List Char :=
  (numeral.exponent.map Exponent.chars).getD []

def fractionChars (numeral : Numeral) : List Char :=
  (numeral.fraction.map ('.' :: ·)).getD []

def chars (numeral : Numeral) : List Char :=
  (if numeral.negative then ['-'] else []) ++
    (numeral.whole ++ (numeral.fractionChars ++ numeral.exponentChars))

def parts (numeral : Numeral) : NumberParts where
  negative := numeral.negative
  whole := numeral.whole
  fraction := numeral.fraction
  exponent := numeral.exponent.map Exponent.parts

variable {numeral : Numeral}

/-- A number begins with a sign or a digit. -/
theorem IsWellFormed.exists_cons (wellFormed : numeral.IsWellFormed) :
    ∃ first others, numeral.chars = first :: others ∧
      (first = '-' ∨ isDigit first = true) := by
  obtain ⟨first, others, split, digit⟩ := wellFormed.whole.exists_cons
  cases negative : numeral.negative with
  | true => exact ⟨'-', _, by rw [chars, negative]; rfl, Or.inl rfl⟩
  | false => exact ⟨first, _, by rw [chars, negative, split]; rfl, Or.inr digit⟩

theorem width_parts (numeral : Numeral) : numeral.parts.width = numeral.chars.length := by
  obtain ⟨negative, whole, fraction, exponent⟩ := numeral
  simp only [NumberParts.width, parts, chars, fractionChars, exponentChars, List.length_append]
  cases negative <;> cases fraction <;> cases exponent <;>
    simp [Exponent.chars, Exponent.parts] <;> omega

theorem scanExponent_exponentChars (wellFormed : numeral.IsWellFormed) (ends : EndsNumber rest)
    (offset : Nat) :
    scanExponent (numeral.exponentChars ++ rest) offset =
      .ok (numeral.exponent.map Exponent.parts) := by
  cases written : numeral.exponent with
  | none => simpa [exponentChars, written] using scanExponent_of_ends ends offset
  | some exponent =>
      simpa [exponentChars, written] using
        scanExponent_chars (wellFormed.exponent exponent written) ends.endsDigits offset

/-- Behind the digits of a part stands no digit. -/
theorem endsDigits_exponentChars (wellFormed : numeral.IsWellFormed) (ends : EndsNumber rest) :
    EndsDigits (numeral.exponentChars ++ rest) := by
  cases written : numeral.exponent with
  | none => simpa [exponentChars, written] using ends.endsDigits
  | some exponent =>
      have marked := (wellFormed.exponent exponent written).mark
      simp only [exponentChars, written, Option.map_some, Option.getD_some, Exponent.chars,
        List.cons_append]
      apply endsDigits_cons
      rcases marked with same | same <;> rw [same] <;> rfl

theorem endsDigits_fractionChars (wellFormed : numeral.IsWellFormed) (ends : EndsNumber rest) :
    EndsDigits (numeral.fractionChars ++ (numeral.exponentChars ++ rest)) := by
  cases written : numeral.fraction with
  | none => simpa [fractionChars, written] using endsDigits_exponentChars wellFormed ends
  | some digits =>
      simp only [fractionChars, written, Option.map_some, Option.getD_some, List.cons_append]
      exact endsDigits_cons rfl _

theorem noPoint_exponentChars (wellFormed : numeral.IsWellFormed) (ends : EndsNumber rest)
    (behind : List Char) : numeral.exponentChars ++ rest ≠ '.' :: behind := by
  intro same
  cases written : numeral.exponent with
  | none =>
      simp only [exponentChars, written, Option.map_none, Option.getD_none,
        List.nil_append] at same
      exact (ends '.' (same ▸ rfl)).2.1 rfl
  | some exponent =>
      have marked := (wellFormed.exponent exponent written).mark
      simp only [exponentChars, written, Option.map_some, Option.getD_some, Exponent.chars,
        List.cons_append, List.cons.injEq] at same
      rw [same.1] at marked
      rcases marked with mark | mark <;> cases mark

theorem scanNumberParts_chars (wellFormed : numeral.IsWellFormed) (ends : EndsNumber rest)
    (offset : Nat) :
    scanNumberParts (numeral.chars ++ rest) offset = .ok numeral.parts := by
  have digits := takeWhile_isDigit_append wellFormed.whole.2
    (endsDigits_fractionChars wellFormed ends)
  obtain ⟨first, others, split, digit⟩ := wellFormed.whole.exists_cons
  have signed : ((numeral.chars ++ rest).head? = some '-') = (numeral.negative = true) := by
    have other : first ≠ '-' := by
      rintro rfl
      cases digit
    cases negative : numeral.negative <;> simp [chars, negative, split, other]
  have unsigned : (numeral.chars ++ rest).drop (if numeral.negative = true then 1 else 0) =
      numeral.whole ++ (numeral.fractionChars ++ (numeral.exponentChars ++ rest)) := by
    cases negative : numeral.negative <;> simp [chars, negative]
  have noZeros : (decide (numeral.whole.head? = some '0') &&
      decide (1 < numeral.whole.length)) = false := by
    rcases wellFormed.noZeros with single | other
    · simp [single]
    · simp [other]
  simp only [scanNumberParts, signed, unsigned, digits, wellFormed.whole.1, noZeros,
    Bool.false_eq_true, if_false, List.drop_left, Bool.decide_eq_true]
  cases written : numeral.fraction with
  | none =>
      have noFraction : numeral.fractionChars = [] := by
        rw [fractionChars, written]
        rfl
      rw [noFraction, List.nil_append]
      split
      next same => exact absurd same (noPoint_exponentChars wellFormed ends _)
      next =>
        rw [scanExponent_exponentChars wellFormed ends, parts, written]
        rfl
  | some part =>
      have filled := wellFormed.fraction part written
      have fraction : numeral.fractionChars = '.' :: part := by
        rw [fractionChars, written]
        rfl
      have behind := takeWhile_isDigit_append filled.2 (endsDigits_exponentChars wellFormed ends)
      rw [fraction, List.cons_append]
      simp only [behind, filled.1, List.drop_left, Bool.false_eq_true, if_false]
      rw [scanExponent_exponentChars wellFormed ends, parts, written]
      rfl

/-! ### Values -/

/-- The document that a number tells: an integer, if it is written as one and fits. -/
def value (numeral : Numeral) : Json :=
  match numeral.parts.integer? with
  | some number => .integer number
  | none => .decimal (String.ofList numeral.chars)

/-- A number that no reader refuses. -/
def IsInRange (numeral : Numeral) : Prop :=
  ∀ offset, numeral.parts.refusal? offset = none

theorem scanNumber_chars (wellFormed : numeral.IsWellFormed) (inRange : numeral.IsInRange)
    (ends : EndsNumber rest) {first : Char} {others : List Char}
    (split : numeral.chars = first :: others) (offset : Nat) :
    scanNumber first (others ++ rest) offset =
      .ascii (.scalar numeral.value none) offset numeral.chars.length := by
  have whole : first :: (others ++ rest) = numeral.chars ++ rest := by
    rw [split, List.cons_append]
  unfold scanNumber
  rw [whole, scanNumberParts_chars wellFormed ends]
  dsimp only
  rw [inRange, width_parts, List.take_left]
  rfl

def ofInt (value : Int) : Numeral where
  negative := value < 0
  whole := Nat.toDigits 10 value.natAbs
  fraction := none
  exponent := none

theorem chars_ofInt (value : Int) : (ofInt value).chars = (toString value).toList := by
  cases value with
  | ofNat size =>
      rw [toList_toString_ofNat]
      exact List.append_nil _
  | negSucc size =>
      rw [toList_toString_negSucc]
      simp [chars, ofInt, fractionChars, exponentChars, Int.negSucc_lt_zero]

theorem isWellFormed_ofInt (value : Int) : (ofInt value).IsWellFormed where
  whole := isNumeric_toDigits _
  noZeros := toDigits_head _
  fraction := nofun
  exponent := nofun

def Fits (value : Int) : Prop :=
  -0x8000000000000000 ≤ value ∧ value < UInt64.size

instance (value : Int) : Decidable (Fits value) :=
  inferInstanceAs (Decidable (_ ∧ _))

theorem value_ofInt {value : Int} (fits : Fits value) : (ofInt value).value = .integer value := by
  obtain ⟨low, high⟩ := fits
  have magnitude : decimalValue (Nat.toDigits 10 value.natAbs) = value.natAbs :=
    decimalValue_toDigits _
  have integer : (ofInt value).parts.integer? = some value := by
    simp only [NumberParts.integer?, parts, ofInt, magnitude, Option.map_none]
    by_cases negative : value < 0
    · have inside : (decide (value.natAbs = 0) || decide (0x8000000000000000 < value.natAbs)) =
          false := by
        rw [Bool.or_eq_false_iff, decide_eq_false_iff_not, decide_eq_false_iff_not]
        omega
      simp only [negative, decide_true, if_true, inside, Bool.false_eq_true, if_false]
      congr 1
      omega
    · have inside : value.natAbs < UInt64.size := by omega
      simp only [negative, decide_false, Bool.false_eq_true, if_false, inside, if_true]
      congr 1
      omega
  rw [Numeral.value, integer]

/-- The difference of two powers of two is no less than any power below them. -/
theorem lt_pow_sub_pow {size low middle high : Nat} (small : size < Nat.pow 2 low)
    (below : low ≤ middle) (above : middle < high) :
    size < Nat.pow 2 high - Nat.pow 2 middle := by
  have lower : Nat.pow 2 low ≤ Nat.pow 2 middle := Nat.pow_le_pow_right (by decide) below
  have upper : Nat.pow 2 middle * 2 ≤ Nat.pow 2 high :=
    Nat.pow_le_pow_right (by decide : 0 < 2) above
  omega

theorem lt_overflowThreshold {size : Nat} (small : size < Nat.pow 2 64) :
    size < overflowThreshold := by
  unfold overflowThreshold
  apply lt_pow_sub_pow small
  · decide
  · decide

/-- A number without exponent is in range, if all its digits together are a number of 64 bits. -/
theorem isInRange_of_small (plain : numeral.exponent = none)
    (small : decimalValue (numeral.whole ++ numeral.fraction.getD []) < Nat.pow 2 64) :
    numeral.IsInRange := by
  intro offset
  have inside (count : Nat) :
      outOfRange (numeral.whole ++ numeral.fraction.getD []) (-(count : Int)) = false := by
    generalize numeral.whole ++ numeral.fraction.getD [] = digits at small
    have below := Nat.not_le_of_lt (lt_overflowThreshold small)
    unfold outOfRange
    cases count with
    | zero => simp [below]
    | succ count =>
        have above : overflowThreshold ≤ overflowThreshold * Nat.pow 10 (count + 1) :=
          Nat.le_mul_of_pos_right _ (Nat.pow_pos (by decide))
        have past : ¬(overflowThreshold * Nat.pow 10 (count + 1) ≤ decimalValue digits) :=
          fun reached => below (Nat.le_trans above reached)
        have magnitude : (-(-((count + 1 : Nat) : Int))).toNat = count + 1 := by omega
        have negative : ¬(0 ≤ -((count + 1 : Nat) : Int)) := by omega
        dsimp only
        rw [if_neg negative, magnitude, decide_eq_false past]
        simp
  simp only [NumberParts.refusal?, parts, plain, Option.map_none, inside]
  rfl

theorem isInRange_ofInt {value : Int} (fits : Fits value) : (ofInt value).IsInRange := by
  refine isInRange_of_small rfl ?_
  have digits : decimalValue ((ofInt value).whole ++ (ofInt value).fraction.getD []) =
      value.natAbs :=
    (congrArg decimalValue (List.append_nil _)).trans (decimalValue_toDigits _)
  have size : Nat.pow 2 64 = 0x10000000000000000 := rfl
  obtain ⟨low, high⟩ := fits
  have high : value < 0x10000000000000000 := high
  rw [digits, size]
  omega

end Numeral

end Json
end BuildNotices
