import BuildNotices.Text.Digits
import Mathlib.Data.Nat.Digits.Defs
/-!
Decimal digits.

The digits of a number are written without zeros in front, and they are read back as this number.
So are digits that are filled up with zeros.
-/

namespace BuildNotices
namespace Text

theorem isDigit_of_mem_toDigits {size : Nat} {c : Char} (member : c ∈ Nat.toDigits 10 size) :
    isDigit c = true := by
  have digit := Nat.isDigit_of_mem_toDigits (by decide) (by decide) member
  simp only [Char.isDigit, Bool.and_eq_true, decide_eq_true_eq] at digit
  simp only [isDigit, Bool.and_eq_true, decide_eq_true_eq]
  exact digit

theorem decimalValue_toDigits (size : Nat) : decimalValue (Nat.toDigits 10 size) = size :=
  Nat.ofDigitChars_ten_toDigits

/-- Only zero is written with a zero in front. -/
theorem toDigits_head (size : Nat) :
    (Nat.toDigits 10 size).length = 1 ∨ (Nat.toDigits 10 size).head? ≠ some '0' := by
  induction size using Nat.strongRecOn with
  | ind size ih =>
      by_cases small : size < 10
      · rw [Nat.toDigits_of_lt_base small]
        exact Or.inl rfl
      · right
        have value := decimalValue_toDigits (size / 10)
        have before := ih (size / 10) (by omega)
        rw [Nat.toDigits_of_base_le (by decide) (by omega)]
        cases digits : Nat.toDigits 10 (size / 10) with
        | nil => exact absurd digits Nat.toDigits_ne_nil
        | cons first others =>
            rw [digits] at value before
            rw [List.cons_append, List.head?_cons]
            rintro zero
            cases zero
            rcases before with single | other
            · have alone : others = [] := List.length_eq_zero_iff.mp (Nat.succ.inj single)
              have nothing : decimalValue ['0'] = 0 := rfl
              rw [alone, nothing] at value
              omega
            · exact other rfl

theorem getLast?_toDigits (size : Nat) :
    (Nat.toDigits 10 size).getLast? = some (size % 10).digitChar := by
  by_cases small : size < 10
  · rw [Nat.toDigits_of_lt_base small, Nat.mod_eq_of_lt small]
    rfl
  · rw [Nat.toDigits_of_base_le (by decide) (Nat.le_of_not_lt small), List.getLast?_concat]

theorem digitChar_ne_zero {digit : Nat} (small : digit < 10) (nonzero : digit ≠ 0) :
    digit.digitChar ≠ '0' := by
  have every : ∀ digit < 10, digit ≠ 0 → digit.digitChar ≠ '0' := by decide
  exact every digit small nonzero

theorem toList_toString (size : Nat) : (toString size).toList = Nat.toDigits 10 size := by
  rw [Nat.toString_eq_repr, Nat.repr_eq_ofList_toDigits, String.toList_ofList]

theorem toList_toString_ofNat (size : Nat) :
    (toString (Int.ofNat size)).toList = Nat.toDigits 10 size :=
  Nat.toList_repr

theorem toList_toString_negSucc (size : Nat) :
    (toString (Int.negSucc size)).toList = '-' :: Nat.toDigits 10 (size + 1) := by
  change ("-" ++ (size + 1).repr).toList = _
  rw [String.toList_append, Nat.toList_repr]
  rfl

def EndsDigits (rest : List Char) : Prop :=
  ∀ c, rest.head? = some c → isDigit c = false

theorem endsDigits_cons {c : Char} (other : isDigit c = false) (rest : List Char) :
    EndsDigits (c :: rest) := by
  intro first same
  cases same
  exact other

theorem takeWhile_isDigit_append {digits rest : List Char}
    (numeric : ∀ c ∈ digits, isDigit c = true)
    (ends : EndsDigits rest) : (digits ++ rest).takeWhile isDigit = digits := by
  rw [List.takeWhile_append_of_pos numeric]
  cases rest with
  | nil => rw [List.takeWhile_nil, List.append_nil]
  | cons c rest => rw [List.takeWhile_cons_of_neg (by simp [ends c rfl]), List.append_nil]

theorem not_mem_of_numeric {digits : List Char} (numeric : ∀ c ∈ digits, isDigit c = true)
    {c : Char} (other : isDigit c = false) : c ∉ digits := by
  intro member
  rw [numeric c member] at other
  cases other

/-! ### Filled up with zeros -/

theorem toList_padded (width value : Nat) :
    (padded width value).toList =
      List.replicate (width - (Nat.toDigits 10 value).length) '0' ++ Nat.toDigits 10 value := by
  unfold padded
  rw [String.toList_append, String.toList_ofList, toList_toString, ← String.length_toList,
    toList_toString]

theorem isDigit_of_mem_padded {width value : Nat} {c : Char}
    (member : c ∈ (padded width value).toList) : isDigit c = true := by
  rw [toList_padded] at member
  rcases List.mem_append.mp member with zero | digit
  · rw [List.eq_of_mem_replicate zero]
    rfl
  · exact isDigit_of_mem_toDigits digit

theorem isEmpty_padded (width value : Nat) : (padded width value).toList.isEmpty = false := by
  rw [toList_padded, List.isEmpty_eq_false_iff]
  exact List.append_ne_nil_of_right_ne_nil _ Nat.toDigits_ne_nil

theorem decimalValue_padded (width value : Nat) :
    decimalValue (padded width value).toList = value := by
  have zeros (count : Nat) (digits : List Char) :
      decimalValue (List.replicate count '0' ++ digits) = decimalValue digits := by
    induction count with
    | zero => rfl
    | succ count ih => exact ih
  rw [toList_padded, zeros, decimalValue_toDigits]

theorem length_padded {width value : Nat} (positive : 0 < width) (fits : value < 10 ^ width) :
    (padded width value).toList.length = width := by
  have short := Nat.toDigits_length 10 value width positive fits
  rw [toList_padded, List.length_append, List.length_replicate]
  omega

end Text
end BuildNotices
