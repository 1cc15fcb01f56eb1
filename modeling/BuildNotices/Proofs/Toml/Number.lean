import BuildNotices.Proofs.Text.Digits
import BuildNotices.Toml.Number
import Mathlib.Data.List.TakeWhile
/-!
Integers read back.

The decimal digits of an integer, with a sign in front of a negative one, are read as this
integer: they are no date, no number in another base, and without fraction and exponent.
-/

namespace BuildNotices
namespace Toml

open Text

/-! ### Digits in a row -/

section Digits

variable {digits : List Char} (numeric : ∀ c ∈ digits, isDigit c = true) (rest : List Char)

theorem fields_eq_singleton {chars : List Char} (absent : '_' ∉ chars) :
    digitGroups.fields '_' chars = [chars] := by
  induction chars with
  | nil => rfl
  | cons c chars ih =>
      obtain ⟨other, inner⟩ := not_or.mp (mt List.mem_cons.mpr absent)
      have cut := ih inner
      unfold digitGroups.fields at cut ⊢
      rw [List.foldr_cons, cut, if_neg (Ne.symm other)]

include numeric

theorem takeWhile_digits {accept : Char → Bool} (accepted : ∀ c, isDigit c = true → accept c = true)
    (stops : accept '\n' = false) :
    (digits ++ '\n' :: rest).takeWhile accept = digits := by
  rw [List.takeWhile_append_of_pos fun c member => accepted c (numeric c member),
    List.takeWhile_cons_of_neg (by simp [stops]), List.append_nil]

theorem wholeDigits_append (filled : digits ≠ [])
    (head : digits.length = 1 ∨ digits.head? ≠ some '0') :
    wholeDigits (digits ++ '\n' :: rest) = some (digits, '\n' :: rest) := by
  have groups : digitGroups isDigit (digits ++ '\n' :: rest) = some (digits, '\n' :: rest) := by
    unfold digitGroups
    dsimp only
    rw [takeWhile_digits numeric rest (fun c digit => by rw [digit, Bool.true_or]) (by decide),
      fields_eq_singleton (not_mem_of_numeric numeric (by decide))]
    simp [filled]
  have accepted : (digits.length = 1 || digits.head? ≠ some '0') = true := by
    rcases head with single | nonzero
    · simp [single]
    · simp [nonzero]
  have passed : (guard (digits.length = 1 || digits.head? ≠ some '0') : Option Unit) = some () :=
    if_pos accepted
  unfold wholeDigits
  rw [groups, Option.bind_eq_bind, Option.bind_some]
  dsimp only
  rw [passed]
  rfl

/-- Behind some of the digits stands another digit or the end of the line. -/
theorem mark_behind_fixedDigits {wanted : Char} (noDigit : isDigit wanted = false)
    (visible : wanted ≠ '\n') (width : Nat) :
    ((fixedDigits width (digits ++ '\n' :: rest)).bind fun result => mark wanted result.2) =
      none := by
  unfold fixedDigits
  dsimp only
  split
  next accepted =>
    rw [Option.bind_some]
    rw [Bool.and_eq_true, decide_eq_true_eq] at accepted
    obtain ⟨long, all⟩ := accepted
    have within : width ≤ digits.length := by
      by_contra shorter
      have feed : '\n' ∈ (digits ++ '\n' :: rest).take width := by
        rw [List.take_append, List.take_of_length_le (by omega)]
        obtain ⟨more, positive⟩ := Nat.exists_eq_succ_of_ne_zero
          (by omega : width - digits.length ≠ 0)
        rw [positive]
        simp
      exact absurd (List.all_eq_true.mp all _ feed) (by decide)
    rw [List.drop_append_of_le_length within]
    cases behind : digits.drop width with
    | nil => exact if_neg (Ne.symm visible)
    | cons next others =>
        have member : next ∈ digits := List.mem_of_mem_drop (behind ▸ List.mem_cons_self)
        refine if_neg fun same => ?_
        rw [← same, numeric next member] at noDigit
        cases noDigit
  next => rfl

theorem sign_digits : sign (digits ++ '\n' :: rest) = (false, digits ++ '\n' :: rest) := by
  have noSign {c : Char} {behind : List Char} (noDigit : isDigit c = false)
      (visible : c ≠ '\n') : digits ++ '\n' :: rest ≠ c :: behind := by
    intro same
    cases digits with
    | nil => exact visible (List.cons.inj same).1.symm
    | cons first others =>
        exact not_mem_of_numeric numeric noDigit ((List.cons.inj same).1 ▸ List.mem_cons_self)
  unfold sign
  split
  next behind same => exact absurd same (noSign (by decide) (by decide))
  next behind same => exact absurd same (noSign (by decide) (by decide))
  next => rfl

/-- No letter stands directly behind the first digit. -/
theorem digits_ne_marked (filled : digits ≠ []) {first letter : Char} {behind : List Char}
    (noDigit : isDigit letter = false) (visible : letter ≠ '\n') :
    digits ++ '\n' :: rest ≠ first :: letter :: behind := by
  intro same
  cases digits with
  | nil => exact filled rfl
  | cons head others =>
      have tails := (List.cons.inj same).2
      cases others with
      | nil => exact visible (List.cons.inj tails).1.symm
      | cons second others =>
          have member : letter ∈ head :: second :: others :=
            (List.cons.inj tails).1 ▸ List.mem_cons_of_mem _ List.mem_cons_self
          exact not_mem_of_numeric numeric noDigit member

theorem datetime_digits : datetime (digits ++ '\n' :: rest) = none := by
  have noDate : date (digits ++ '\n' :: rest) = none := by
    have failed := mark_behind_fixedDigits numeric rest (by decide : isDigit '-' = false)
      (by decide) 4
    unfold date
    cases read : fixedDigits 4 (digits ++ '\n' :: rest) with
    | none => rfl
    | some result =>
        rw [read, Option.bind_some] at failed
        change (mark '-' result.2 >>= _) = none
        rw [failed]
        rfl
  have noTime : time (digits ++ '\n' :: rest) = none := by
    have failed := mark_behind_fixedDigits numeric rest (by decide : isDigit ':' = false)
      (by decide) 2
    unfold time
    cases read : fixedDigits 2 (digits ++ '\n' :: rest) with
    | none => rfl
    | some result =>
        rw [read, Option.bind_some] at failed
        change (mark ':' result.2 >>= _) = none
        rw [failed]
        rfl
  rw [datetime, noDate, noTime]
  rfl

end Digits

theorem datetime_minus (chars : List Char) : datetime ('-' :: chars) = none := by
  have noDigits (width : Nat) (positive : 0 < width) : fixedDigits width ('-' :: chars) = none := by
    obtain ⟨more, rfl⟩ := Nat.exists_eq_succ_of_ne_zero (Nat.ne_of_gt positive)
    unfold fixedDigits
    rw [List.take_succ_cons]
    simp [show isDigit '-' = false by decide]
  have noDate : date ('-' :: chars) = none := by
    unfold date
    rw [noDigits 4 (by decide)]
    rfl
  have noTime : time ('-' :: chars) = none := by
    unfold time
    rw [noDigits 2 (by decide)]
    rfl
  rw [datetime, noDate, noTime]
  rfl

/-! ### Integers -/

theorem wholeDigits_toDigits (size : Nat) (rest : List Char) :
    wholeDigits (Nat.toDigits 10 size ++ '\n' :: rest) =
      some (Nat.toDigits 10 size, '\n' :: rest) :=
  wholeDigits_append (fun _ => isDigit_of_mem_toDigits) rest Nat.toDigits_ne_nil
    (toDigits_head size)

theorem decimal_of_sign {chars digits rest : List Char} {negative : Bool} {value : Int}
    (signed : sign chars = (negative, digits ++ '\n' :: rest))
    (whole : wholeDigits (digits ++ '\n' :: rest) = some (digits, '\n' :: rest))
    (size : (if negative then -(decimalValue digits : Int) else decimalValue digits) = value)
    (fits : fits64 value = some value) :
    decimal chars = some (.integer value, '\n' :: rest) := by
  have noExponent : exponent ('\n' :: rest) = none := by simp [exponent]
  unfold decimal
  rw [signed]
  dsimp only
  rw [whole, Option.bind_eq_bind, Option.bind_some]
  dsimp only
  split
  next point => cases point
  next =>
    rw [noExponent]
    dsimp only
    rw [size, fits]
    rfl

/-- An integer that fits is read back in front of the end of its line. -/
theorem number_toString {value : Int} (fits : fits64 value = some value) (rest : List Char) :
    number ((toString value).toList ++ '\n' :: rest) = some (.integer value, '\n' :: rest) := by
  cases value with
  | ofNat size =>
      have numeric : ∀ c ∈ Nat.toDigits 10 size, isDigit c = true :=
        fun c member => isDigit_of_mem_toDigits member
      have read : decimal (Nat.toDigits 10 size ++ '\n' :: rest) =
          some (.integer (Int.ofNat size), '\n' :: rest) := by
        refine decimal_of_sign (sign_digits numeric rest) (wholeDigits_toDigits size rest) ?_ fits
        rw [decimalValue_toDigits]
        rfl
      have unmarked {letter : Char} (noDigit : isDigit letter = false) (visible : letter ≠ '\n')
          (behind : List Char) : Nat.toDigits 10 size ++ '\n' :: rest = '0' :: letter :: behind →
            False :=
        digits_ne_marked numeric rest Nat.toDigits_ne_nil noDigit visible
      rw [toList_toString_ofNat, number, datetime_digits numeric rest, read]
      · rfl
      · exact unmarked (by decide) (by decide)
      · exact unmarked (by decide) (by decide)
      · exact unmarked (by decide) (by decide)
  | negSucc size =>
      have read : decimal ('-' :: (Nat.toDigits 10 (size + 1) ++ '\n' :: rest)) =
          some (.integer (Int.negSucc size), '\n' :: rest) := by
        refine decimal_of_sign rfl (wholeDigits_toDigits (size + 1) rest) ?_ fits
        rw [decimalValue_toDigits]
        rfl
      rw [toList_toString_negSucc, List.cons_append]
      unfold number
      rw [datetime_minus]
      simp [read]

end Toml
end BuildNotices
