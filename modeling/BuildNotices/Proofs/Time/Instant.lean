import BuildNotices.Proofs.Text.Digits
import BuildNotices.Proofs.Time.Calendar
import BuildNotices.Time.Instant
/-!
Instants read back from their texts.

The text of an instant names it again, for every instant that a text can name: its year lies in
the readable years, and only the last second of a minute runs on as a leap second.
-/

namespace BuildNotices
namespace Instant

open Text

/-! ### Parts of a text -/

section Parts

variable {rest : List Char}

theorem dropWhile_isBlank_of_solid {c : Char} (solid : isBlank c = false) :
    (c :: rest).dropWhile isBlank = c :: rest :=
  List.dropWhile_cons_of_neg (by simp [solid])

theorem isBlank_of_isDigit {c : Char} (digit : isDigit c = true) : isBlank c = false := by
  have digits : ∀ code < 58, 48 ≤ code →
      blankRanges.any (fun range => range.1 ≤ code && code ≤ range.2) = false := by decide
  simp only [isDigit, Bool.and_eq_true, decide_eq_true_eq] at digit
  have low : 48 ≤ c.toNat := digit.1
  have high : c.toNat ≤ 57 := digit.2
  exact digits c.toNat (by omega) low

theorem exists_padded (width value : Nat) : ∃ first others,
    (padded width value).toList = first :: others ∧ isDigit first = true := by
  cases digits : (padded width value).toList with
  | nil =>
      have filled := isEmpty_padded width value
      rw [digits] at filled
      cases filled
  | cons first others =>
      exact ⟨first, others, rfl, isDigit_of_mem_padded (digits ▸ List.mem_cons_self)⟩

theorem dropWhile_isBlank_padded (width value : Nat) :
    ((padded width value).toList ++ rest).dropWhile isBlank =
      (padded width value).toList ++ rest := by
  obtain ⟨first, others, digits, digit⟩ := exists_padded width value
  rw [digits, List.cons_append, dropWhile_isBlank_of_solid (isBlank_of_isDigit digit)]

theorem number_padded {width value : Nat} (positive : 0 < width) (fits : value < 10 ^ width)
    (rest : List Char) :
    number width ((padded width value).toList ++ rest) = some (value, rest) := by
  have digits : (padded width value).toList.takeWhile isDigit = (padded width value).toList := by
    have noRest : EndsDigits [] := nofun
    have digits := takeWhile_isDigit_append (fun c => @isDigit_of_mem_padded width value c) noRest
    rwa [List.append_nil] at digits
  unfold number
  dsimp only
  rw [dropWhile_isBlank_padded, List.take_left' (length_padded positive fits), digits,
    isEmpty_padded, List.drop_left, decimalValue_padded]
  rfl

theorem signed_padded (width value : Nat) (ends : EndsDigits rest) :
    year.signed ((padded width value).toList ++ rest) = some (value, rest) := by
  unfold year.signed
  dsimp only
  rw [takeWhile_isDigit_append (fun c member => isDigit_of_mem_padded member) ends,
    isEmpty_padded, List.drop_left, decimalValue_padded]
  rfl

theorem year_minus : year ('-' :: rest) =
    (year.signed rest).map fun (value, behind) => (-(value : Int), behind) := rfl

theorem year_plus : year ('+' :: rest) =
    (year.signed rest).map fun (value, behind) => ((value : Int), behind) := rfl

theorem year_of_isDigit {c : Char} (digit : isDigit c = true) : year (c :: rest) =
    (number 4 (c :: rest)).map fun (value, behind) => ((value : Int), behind) := by
  unfold year
  rw [dropWhile_isBlank_of_solid (isBlank_of_isDigit digit)]
  split
  next minus =>
    cases minus
    cases digit
  next plus =>
    cases plus
    cases digit
  next => rfl

theorem year_yearText (value : Int) (ends : EndsDigits rest) :
    year ((yearText value).toList ++ rest) = some (value, rest) := by
  unfold yearText
  split
  next plain =>
    rw [Bool.and_eq_true, decide_eq_true_eq, decide_eq_true_eq] at plain
    obtain ⟨first, others, digits, digit⟩ := exists_padded 4 value.toNat
    have fits : value.toNat < 10 ^ 4 := by omega
    have read := number_padded (by decide) fits rest
    rw [digits, List.cons_append] at read ⊢
    rw [year_of_isDigit digit, read, Option.map_some]
    dsimp only
    rw [Int.toNat_of_nonneg plain.1]
  next signed =>
    split
    next negative =>
      have sign : -(value.natAbs : Int) = value := by omega
      have minus : "-".toList = ['-'] := rfl
      rw [String.toList_append, minus, List.append_assoc, List.singleton_append, year_minus,
        signed_padded 4 value.natAbs ends, Option.map_some]
      dsimp only
      rw [sign]
    next positive =>
      have sign : (value.natAbs : Int) = value := by omega
      have plus : "+".toList = ['+'] := rfl
      rw [String.toList_append, plus, List.append_assoc, List.singleton_append, year_plus,
        signed_padded 4 value.natAbs ends, Option.map_some]
      dsimp only
      rw [sign]

theorem separator_cons {mark : Char} (solid : isBlank mark = false) :
    separator mark (mark :: rest) = some ((), rest) := by
  unfold separator
  rw [dropWhile_isBlank_of_solid solid]
  exact if_pos rfl

theorem fraction_point {digits : List Char} (numeric : ∀ c ∈ digits, isDigit c = true)
    (filled : digits.isEmpty = false) (few : digits.length ≤ 9) (ends : EndsDigits rest) :
    fraction ('.' :: (digits ++ rest)) =
      some (decimalValue digits * 10 ^ (9 - digits.length), rest) := by
  have kept := List.take_of_length_le few
  have whole := takeWhile_isDigit_append numeric ends
  simp only [fraction, whole, filled, kept, List.drop_left]
  rfl

theorem fraction_padded {width value : Nat} (positive : 0 < width) (few : width ≤ 9)
    (fits : value < 10 ^ width) (ends : EndsDigits rest) :
    fraction (("." ++ padded width value).toList ++ rest) =
      some (value * 10 ^ (9 - width), rest) := by
  have point : ".".toList = ['.'] := rfl
  have long := length_padded positive fits
  rw [String.toList_append, point, List.append_assoc, List.singleton_append,
    fraction_point (fun c => isDigit_of_mem_padded) (isEmpty_padded width value) (by omega) ends,
    decimalValue_padded, long]

theorem fraction_fractionText {nanoseconds : Nat} (small : nanoseconds < 1000000000) :
    fraction ((fractionText nanoseconds).toList ++ 'Z' :: rest) =
      some (nanoseconds, 'Z' :: rest) := by
  have ends := endsDigits_cons (by decide : isDigit 'Z' = false) rest
  unfold fractionText
  split
  next nothing =>
    rw [nothing]
    rfl
  next =>
    split
    next milliseconds =>
      have fits : nanoseconds / 1000000 < 10 ^ 3 := by omega
      have scaled : nanoseconds / 1000000 * 10 ^ (9 - 3) = nanoseconds := by omega
      rw [fraction_padded (by decide) (by decide) fits ends, scaled]
    next =>
      split
      next microseconds =>
        have fits : nanoseconds / 1000 < 10 ^ 6 := by omega
        have scaled : nanoseconds / 1000 * 10 ^ (9 - 6) = nanoseconds := by omega
        rw [fraction_padded (by decide) (by decide) fits ends, scaled]
      next =>
        have fits : nanoseconds < 10 ^ 9 := by omega
        rw [fraction_padded (by decide) (by decide) fits ends, Nat.sub_self, Nat.pow_zero,
          Nat.mul_one]

end Parts

/-! ### Whole texts -/

theorem bind_of_read {α β : Type} {value : α} {rest : List Char} {read : Option (α × List Char)}
    {next : α × List Char → Option β} (found : read = some (value, rest)) :
    (read >>= next) = next (value, rest) := by
  rw [found]
  rfl

theorem bind_of_guard {β : Type} {condition : Prop} [Decidable condition]
    {next : Unit → Option β} (holds : condition) :
    ((guard condition : Option Unit) >>= next) = next () := by
  rw [guard, if_pos holds]
  rfl

def date (instant : Instant) : Date :=
  Date.ofDayNumber (instant.seconds.fdiv 86400)

structure IsReadable (instant : Instant) : Prop where
  year : readableYear instant.date.year = true
  nanoseconds : instant.nanoseconds < 1000000000 ∨
    instant.nanoseconds < 2000000000 ∧ instant.clock % 60 = 59

theorem seconds_eq (instant : Instant) :
    instant.date.dayNumber * 86400 + instant.clock = instant.seconds := by
  have days : instant.date.dayNumber = instant.seconds.fdiv 86400 :=
    Date.dayNumber_ofDayNumber _
  have rest : (instant.clock : Int) = instant.seconds.fmod 86400 :=
    Int.toNat_of_nonneg (Int.fmod_nonneg_of_pos _ (by decide))
  rw [days, rest, Int.mul_comm]
  exact Int.mul_fdiv_add_fmod _ _

theorem clock_lt (instant : Instant) : instant.clock < 86400 := by
  have small := Int.fmod_lt_of_pos instant.seconds (by decide : (0 : Int) < 86400)
  unfold clock
  omega

def behindYear (instant : Instant) : List Char :=
  (padded 2 instant.date.month).toList ++ '-' :: ((padded 2 instant.date.day).toList ++
    'T' :: ((padded 2 (instant.clock / 3600)).toList ++
    ':' :: ((padded 2 (instant.clock % 3600 / 60)).toList ++
    ':' :: ((padded 2 (instant.clock % 60 + instant.nanoseconds / 1000000000)).toList ++
    ((fractionText (instant.nanoseconds % 1000000000)).toList ++ ['Z'])))))

theorem toList_text (instant : Instant) :
    instant.text.toList = (yearText instant.date.year).toList ++ '-' :: instant.behindYear := by
  have dash : "-".toList = ['-'] := rfl
  have colon : ":".toList = [':'] := rfl
  have middle : "T".toList = ['T'] := rfl
  have zone : "Z".toList = ['Z'] := rfl
  unfold text
  simp only [String.toList_append, dash, colon, middle, zone, List.append_assoc,
    List.singleton_append]
  rfl

/-- The instant that the parts of a text tell, when they are read one after the other. -/
theorem parse?_of_parts {text : String} {date : Date} {hour minute second fraction : Nat}
    {behindYear behindMonth behindDay behindHour behindMinute behindSecond : List Char}
    (year : year text.toList = some (date.year, '-' :: behindYear))
    (month : number 2 behindYear = some (date.month, '-' :: behindMonth))
    (day : number 2 behindMonth = some (date.day, 'T' :: behindDay))
    (hours : number 2 behindDay = some (hour, ':' :: behindHour))
    (minutes : number 2 behindHour = some (minute, ':' :: behindMinute))
    (seconds : number 2 behindMinute = some (second, behindSecond))
    (nanoseconds : Instant.fraction behindSecond = some (fraction, ['Z']))
    (valid : date.isValid = true) (readable : readableYear date.year = true)
    (same : Date.ofDayNumber date.dayNumber = date)
    (inDay : hour ≤ 23) (inHour : minute ≤ 59) (inMinute : second ≤ 60) :
    parse? text = some
      { seconds := date.dayNumber * 86400 + (hour * 3600 + minute * 60 + min second 59 : Nat)
        nanoseconds := fraction + (second - 59) * 1000000000 } := by
  have dash {rest : List Char} : separator '-' ('-' :: rest) = some ((), rest) :=
    separator_cons (by decide)
  have colon {rest : List Char} : separator ':' (':' :: rest) = some ((), rest) :=
    separator_cons (by decide)
  have middle {rest : List Char} : dateEnd ('T' :: rest) = some ((), rest) := rfl
  have zone : offset ['Z'] = some (0, []) := by decide
  have daysOf : (date.dayNumber * 86400 +
      (hour * 3600 + minute * 60 + min second 59 : Nat) - 0).fdiv 86400 = date.dayNumber := by
    rw [Int.fdiv_eq_ediv_of_nonneg _ (by decide)]
    omega
  unfold parse?
  refine (bind_of_read year).trans ?_
  refine (bind_of_read dash).trans ?_
  refine (bind_of_read month).trans ?_
  refine (bind_of_read dash).trans ?_
  refine (bind_of_read day).trans ?_
  refine (bind_of_read middle).trans ?_
  refine (bind_of_read hours).trans ?_
  refine (bind_of_read colon).trans ?_
  refine (bind_of_read minutes).trans ?_
  refine (bind_of_read colon).trans ?_
  refine (bind_of_read seconds).trans ?_
  refine (bind_of_read nanoseconds).trans ?_
  refine (bind_of_read zone).trans ?_
  refine (bind_of_guard (by simp [valid, readable])).trans ?_
  refine (bind_of_guard (by simp [inDay, inHour, inMinute])).trans ?_
  refine (bind_of_guard (by rw [daysOf, same]; exact readable)).trans ?_
  rw [Int.sub_zero]
  rfl

/-- The text of an instant names the instant. -/
theorem parse?_text {instant : Instant} (readable : instant.IsReadable) :
    parse? instant.text = some instant := by
  have valid : instant.date.isValid = true := Date.isValid_ofDayNumber _
  have same : Date.ofDayNumber instant.date.dayNumber = instant.date :=
    congrArg Date.ofDayNumber (Date.dayNumber_ofDayNumber _)
  obtain ⟨_, months, days⟩ := Date.bounds_of_isValid valid
  have inDay := instant.clock_lt
  have inSecond := readable.nanoseconds
  have year := year_yearText instant.date.year
    (endsDigits_cons (by decide : isDigit '-' = false) instant.behindYear)
  rw [← toList_text] at year
  have twoDigits {value : Nat} (fits : value < 10 ^ 2) {rest : List Char} :=
    number_padded (by decide) fits rest
  have hours : instant.clock / 3600 < 10 ^ 2 := by omega
  have minutes : instant.clock % 3600 / 60 < 10 ^ 2 := by omega
  have seconds : instant.clock % 60 + instant.nanoseconds / 1000000000 < 10 ^ 2 := by omega
  have fraction := Nat.mod_lt instant.nanoseconds (by decide : 0 < 1000000000)
  have seconds_eq : instant.date.dayNumber * 86400 + (instant.clock / 3600 * 3600 +
      instant.clock % 3600 / 60 * 60 +
      min (instant.clock % 60 + instant.nanoseconds / 1000000000) 59 : Nat) =
        instant.seconds := by
    rw [← instant.seconds_eq]
    omega
  have nanoseconds_eq : instant.nanoseconds % 1000000000 +
      (instant.clock % 60 + instant.nanoseconds / 1000000000 - 59) * 1000000000 =
        instant.nanoseconds := by
    omega
  refine (parse?_of_parts year (twoDigits (by omega)) (twoDigits (by omega)) (twoDigits hours)
    (twoDigits minutes) (twoDigits seconds) (fraction_fractionText fraction) valid
    readable.year same (by omega) (by omega) (by omega)).trans ?_
  rw [seconds_eq, nanoseconds_eq]

end Instant
end BuildNotices
