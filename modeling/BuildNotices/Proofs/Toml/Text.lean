import BuildNotices.Toml.Printer
import Mathlib.Data.List.TakeWhile
/-!
Texts and keys read back.

A text is read back from each of its four forms: escapes are undone, and quotes that stand inside
of triple quotes never reach three in a row. A key is read back up to the blank behind it.
-/

namespace BuildNotices
namespace Toml

open Text

/-! ### Characters -/

theorem toNat_lt_of_not_isPlain {c : Char} (special : isPlain c = false) : c.toNat < 0x80 := by
  unfold isPlain at special
  simp only [Bool.or_eq_false_iff, Bool.and_eq_false_iff, decide_eq_false_iff_not] at special
  omega

theorem hexNumber?_escape {code : Nat} (small : code < 0x80) :
    hexNumber? ['0', '0', upperHexDigit (code / 16), upperHexDigit (code % 16)] = some code := by
  revert code
  decide +kernel

/-- A character stands for itself, or a backslash and a code stand for it. -/
inductive IsWrittenAs (c : Char) : (written : List Char) → Prop where
  | itself (plain : isPlain c = true) (unquoted : c ≠ '\x22') (unescaped : c ≠ '\\') :
      IsWrittenAs c [c]
  | coded {code : List Char} (named : ∀ rest, escape? (code ++ rest) = some (c, code.length)) :
      IsWrittenAs c ('\\' :: code)

theorem isWrittenAs_escaped (c : Char) : IsWrittenAs c (escaped c) := by
  unfold escaped
  split
  case h_8 _ _ _ _ _ unquoted unescaped =>
    split
    next plain => exact .itself plain unquoted unescaped
    next special =>
      refine .coded fun rest => ?_
      have small := toNat_lt_of_not_isPlain (Bool.eq_false_iff.mpr special)
      have valid : c.toNat.isValidChar := c.valid
      have scalar : scalar? c.toNat = some c := by
        unfold scalar?
        rw [if_pos valid, Char.ofNat_toNat]
      change (hexNumber? ['0', '0', upperHexDigit (c.toNat / 16), upperHexDigit (c.toNat % 16)] >>=
        _) = _
      rw [hexNumber?_escape small]
      change (scalar? c.toNat >>= _) = _
      rw [scalar]
      rfl
  all_goals exact .coded fun _ => rfl

/-! ### Strings on one line -/

section Line

variable {quote : Char} {escapes : Bool}

theorem quotedText_quote (rest reversed : List Char) :
    quotedText quote escapes (quote :: rest) reversed =
      some (String.ofList reversed.reverse, rest) := by
  rw [quotedText, if_pos rfl]

theorem quotedText_plain {c : Char} (inside : c ≠ quote) (plain : isPlain c = true)
    (unescaped : escapes = true → c ≠ '\\') (rest reversed : List Char) :
    quotedText quote escapes (c :: rest) reversed =
      quotedText quote escapes rest (c :: reversed) := by
  have noCode : ¬ (decide (c = '\\') && escapes) = true := by
    rw [Bool.and_eq_true, decide_eq_true_eq]
    exact fun both => unescaped both.2 both.1
  rw [quotedText, if_neg inside, if_neg noCode, if_pos plain]

theorem quotedText_code {c : Char} {code rest : List Char} (inside : '\\' ≠ quote)
    (named : escape? (code ++ rest) = some (c, code.length)) (reversed : List Char) :
    quotedText quote true ('\\' :: (code ++ rest)) reversed =
      quotedText quote true rest (c :: reversed) := by
  rw [quotedText, if_neg inside, if_pos (by decide), named]
  dsimp only
  rw [List.drop_left]

end Line

theorem quotedText_escapedLine (chars rest reversed : List Char) :
    quotedText '\x22' true (escapedLine chars ++ '\x22' :: rest) reversed =
      some (String.ofList (reversed.reverse ++ chars), rest) := by
  induction chars generalizing reversed with
  | nil =>
      rw [List.append_nil]
      exact quotedText_quote rest reversed
  | cons c chars ih =>
      have next := ih (c :: reversed)
      rw [List.reverse_cons, List.append_assoc, List.singleton_append] at next
      rw [escapedLine, List.flatMap_cons, List.append_assoc, ← next]
      have form := isWrittenAs_escaped c
      generalize escaped c = written at form
      cases form with
      | itself plain unquoted unescaped =>
          exact quotedText_plain unquoted plain (fun _ => unescaped) _ _
      | coded named => exact quotedText_code (by decide) (named _) _

theorem quotedText_raw {quote : Char} {chars : List Char}
    (plain : ∀ c ∈ chars, isPlain c = true ∧ c ≠ quote) (rest reversed : List Char) :
    quotedText quote false (chars ++ quote :: rest) reversed =
      some (String.ofList (reversed.reverse ++ chars), rest) := by
  induction chars generalizing reversed with
  | nil =>
      rw [List.append_nil]
      exact quotedText_quote rest reversed
  | cons c chars ih =>
      obtain ⟨⟨here, inside⟩, later⟩ := List.forall_mem_cons.mp plain
      have next := ih later (c :: reversed)
      rw [List.reverse_cons, List.append_assoc, List.singleton_append] at next
      rw [List.cons_append, ← next]
      exact quotedText_plain inside here (fun (never : false = true) => nomatch never) _ _

/-! ### Strings on several lines -/

section Lines

variable {quote : Char} {escapes : Bool}

theorem takeWhile_replicate_append {wanted stop : Char} (other : stop ≠ wanted) (count : Nat)
    (rest : List Char) :
    (List.replicate count wanted ++ stop :: rest).takeWhile (fun c => decide (c = wanted)) =
      List.replicate count wanted := by
  rw [List.takeWhile_append_of_pos, List.takeWhile_cons_of_neg (by simpa using other),
    List.append_nil]
  intro c member
  exact decide_eq_true (List.eq_of_mem_replicate member)

/-- Up to two quotes in front of another character belong to the text. -/
theorem multilineText_quotes {count : Nat} (few : count ≤ 2) {c : Char} (other : c ≠ quote)
    (rest reversed : List Char) :
    multilineText quote escapes (List.replicate count quote ++ c :: rest) reversed =
      multilineText quote escapes (c :: rest) (List.replicate count quote ++ reversed) := by
  cases count with
  | zero => rfl
  | succ more =>
      have short : ¬ 2 ≤ more := by omega
      rw [List.replicate_succ, List.cons_append, multilineText, if_pos rfl,
        takeWhile_replicate_append other, List.length_replicate]
      dsimp only
      rw [if_neg short, List.drop_append_of_le_length (by simp), List.drop_of_length_le (by simp),
        List.nil_append, ← List.replicate_succ]

/-- Up to two quotes in front of the closing ones belong to the text. -/
theorem multilineText_closing {count : Nat} (few : count ≤ 2) {c : Char} (other : c ≠ quote)
    (rest reversed : List Char) :
    multilineText quote escapes
        (List.replicate count quote ++ (List.replicate 3 quote ++ c :: rest)) reversed =
      some (String.ofList (reversed.reverse ++ List.replicate count quote), c :: rest) := by
  have all : List.replicate count quote ++ (List.replicate 3 quote ++ c :: rest) =
      quote :: (List.replicate (count + 2) quote ++ c :: rest) := by
    rw [← List.append_assoc, List.replicate_append_replicate, List.replicate_succ,
      List.cons_append]
  have enough : 2 ≤ count + 2 := by omega
  have inside : min (count + 2) 4 - 2 = count := by omega
  have width : min (count + 2) 4 = (List.replicate (count + 2) quote).length := by
    rw [List.length_replicate]
    omega
  rw [all, multilineText, if_pos rfl, takeWhile_replicate_append other, List.length_replicate]
  dsimp only
  rw [if_pos enough, inside, width, List.drop_left, List.reverse_append, List.reverse_replicate]

theorem multilineText_feed (inside : '\n' ≠ quote) (rest reversed : List Char) :
    multilineText quote escapes ('\n' :: rest) reversed =
      multilineText quote escapes rest ('\n' :: reversed) := by
  rw [multilineText, if_neg inside, if_pos rfl]

theorem multilineText_plain {c : Char} (inside : c ≠ quote) (plain : isPlain c = true)
    (unescaped : escapes = true → c ≠ '\\') (rest reversed : List Char) :
    multilineText quote escapes (c :: rest) reversed =
      multilineText quote escapes rest (c :: reversed) := by
  have noFeed : c ≠ '\n' := by
    rintro rfl
    exact absurd plain (by decide)
  have noReturn : c ≠ '\r' := by
    rintro rfl
    exact absurd plain (by decide)
  have noCode : ¬ (decide (c = '\\') && escapes) = true := by
    rw [Bool.and_eq_true, decide_eq_true_eq]
    exact fun both => unescaped both.2 both.1
  rw [multilineText, if_neg inside, if_neg noFeed, if_neg noReturn, if_neg noCode, if_pos plain]

theorem multilineText_code {c : Char} {code rest : List Char} (inside : '\\' ≠ quote)
    (named : escape? (code ++ rest) = some (c, code.length)) (reversed : List Char) :
    multilineText quote true ('\\' :: (code ++ rest)) reversed =
      multilineText quote true rest (c :: reversed) := by
  rw [multilineText, if_neg inside, if_neg (by decide), if_neg (by decide),
    if_pos (by decide), named]
  dsimp only
  rw [List.drop_left]

end Lines

/-- Of a text in triple double quotes every character is read back; as many quotes as are counted
already stand in front. -/
theorem multilineText_escapedLines {count : Nat} (few : count ≤ 2) {stop : Char}
    (other : stop ≠ '\x22') (chars rest reversed : List Char) :
    multilineText '\x22' true (List.replicate count '\x22' ++
        (escapedLines count chars ++ (List.replicate 3 '\x22' ++ stop :: rest))) reversed =
      some (String.ofList (reversed.reverse ++ List.replicate count '\x22' ++ chars),
        stop :: rest) := by
  induction chars generalizing count reversed with
  | nil =>
      rw [escapedLines, List.nil_append, List.append_nil]
      exact multilineText_closing few other rest reversed
  | cons c chars ih =>
      -- Behind any other character the count of quotes starts again.
      have next := ih (Nat.zero_le 2) (c :: (List.replicate count '\x22' ++ reversed))
      simp only [List.replicate_zero, List.nil_append, List.reverse_cons, List.reverse_append,
        List.reverse_replicate, List.append_assoc, List.singleton_append] at next ⊢
      unfold escapedLines
      by_cases isQuote : c = '\x22'
      · rw [if_pos isQuote]
        by_cases room : count < 2
        · have longer := ih (by omega : count + 1 ≤ 2) reversed
          rw [if_pos room, isQuote]
          simpa only [List.replicate_succ', List.append_assoc, List.singleton_append,
            List.cons_append, List.nil_append] using longer
        · have named (behind : List Char) : escape? (['\x22'] ++ behind) = some ('\x22', 1) := rfl
          rw [if_neg room, ← next, isQuote, List.cons_append, List.cons_append,
            multilineText_quotes few (by decide)]
          exact multilineText_code (by decide) (named _) _
      · rw [if_neg isQuote, ← next]
        by_cases isFeed : c = '\n'
        · rw [if_pos isFeed, isFeed, List.cons_append, multilineText_quotes few (by decide)]
          exact multilineText_feed (by decide) _ _
        · rw [if_neg isFeed, List.append_assoc]
          have form := isWrittenAs_escaped c
          generalize escaped c = written at form
          cases form with
          | itself plain unquoted unescaped =>
              rw [List.singleton_append, multilineText_quotes few unquoted]
              exact multilineText_plain unquoted plain (fun _ => unescaped) _ _
          | coded named =>
              rw [List.cons_append, multilineText_quotes few (by decide)]
              exact multilineText_code (by decide) (named _) _

/-- No more than so many of one character follow each other, and some stand in front already. -/
def RunsWithin (wanted : Char) (limit : Nat) : (count : Nat) → List Char → Prop
  | _, [] => True
  | count, c :: rest =>
      if c = wanted then count < limit ∧ RunsWithin wanted limit (count + 1) rest
      else RunsWithin wanted limit 0 rest

theorem multilineText_raw {quote stop : Char} (visible : '\n' ≠ quote) (other : stop ≠ quote)
    {chars : List Char} (plain : ∀ c ∈ chars, isPlain c = true ∨ c = '\n') {count : Nat}
    (few : count ≤ 2) (runs : RunsWithin quote 2 count chars) (rest reversed : List Char) :
    multilineText quote false (List.replicate count quote ++
        (chars ++ (List.replicate 3 quote ++ stop :: rest))) reversed =
      some (String.ofList (reversed.reverse ++ List.replicate count quote ++ chars),
        stop :: rest) := by
  induction chars generalizing count reversed with
  | nil =>
      rw [List.nil_append, List.append_nil]
      exact multilineText_closing few other rest reversed
  | cons c chars ih =>
      obtain ⟨here, later⟩ := List.forall_mem_cons.mp plain
      rw [RunsWithin] at runs
      by_cases isQuote : c = quote
      · rw [if_pos isQuote] at runs
        obtain ⟨room, runs⟩ := runs
        have longer := ih later room runs reversed
        simpa only [isQuote, List.replicate_succ', List.append_assoc, List.singleton_append,
          List.cons_append, List.nil_append] using longer
      · rw [if_neg isQuote] at runs
        have next := ih later (Nat.zero_le 2) runs
          (c :: (List.replicate count quote ++ reversed))
        simp only [List.replicate_zero, List.nil_append, List.reverse_cons, List.reverse_append,
          List.reverse_replicate, List.append_assoc, List.singleton_append] at next ⊢
        rw [← next, List.cons_append, multilineText_quotes few isQuote]
        rcases here with plain | rfl
        · exact multilineText_plain isQuote plain (fun (never : false = true) => nomatch never) _ _
        · exact multilineText_feed visible _ _

/-! ### What decides the form -/

section Runs

variable {wanted : Char} {limit : Nat}

theorem runsWithin_of_foldl {chars : List Char} {count longest : Nat}
    (short : (chars.foldl
      (fun (run, longest) c =>
        let run := if c = wanted then run + 1 else 0
        (run, max run longest))
      (count, longest)).2 ≤ limit) :
    longest ≤ limit ∧ RunsWithin wanted limit count chars := by
  induction chars generalizing count longest with
  | nil => exact ⟨short, trivial⟩
  | cons c chars ih =>
      rw [List.foldl_cons] at short
      obtain ⟨within, runs⟩ := ih short
      rw [RunsWithin]
      by_cases same : c = wanted
      · rw [if_pos same] at within runs ⊢
        exact ⟨by omega, by omega, runs⟩
      · rw [if_neg same] at within runs ⊢
        exact ⟨by omega, runs⟩

theorem runsWithin_of_longestRun {chars : List Char} (short : longestRun wanted chars ≤ limit) :
    RunsWithin wanted limit 0 chars :=
  (runsWithin_of_foldl short).2

theorem not_mem_of_longestRun {chars : List Char} (none : longestRun wanted chars = 0) :
    wanted ∉ chars := by
  have runs := runsWithin_of_longestRun (Nat.le_of_eq none)
  clear none
  induction chars with
  | nil => exact List.not_mem_nil
  | cons c chars ih =>
      rw [RunsWithin] at runs
      by_cases same : c = wanted
      · rw [if_pos same] at runs
        exact absurd runs.1 (Nat.not_lt_zero 0)
      · rw [if_neg same] at runs
        rw [List.mem_cons, not_or]
        exact ⟨Ne.symm same, ih runs⟩

end Runs

section Form

variable {chars : List Char}

theorem not_mem_of_not_broken (unbroken : (TextTraits.of chars).broken = false) :
    '\n' ∉ chars := by
  intro member
  have broken : chars.contains '\n' = true := List.contains_iff_mem.mpr member
  rw [TextTraits.of] at unbroken
  rw [broken] at unbroken
  cases unbroken

theorem isPlain_of_not_controls (clean : (TextTraits.of chars).controls = false) :
    ∀ c ∈ chars, isPlain c = true ∨ c = '\n' := by
  intro c member
  have allowed := List.any_eq_false.mp clean c member
  by_cases isFeed : c = '\n'
  · exact Or.inr isFeed
  · simpa [isFeed] using allowed

theorem fitsSingle_of_traits (clean : (TextTraits.of chars).controls = false)
    (unbroken : (TextTraits.of chars).broken = false) (singles : (TextTraits.of chars).singles = 0) :
    ∀ c ∈ chars, isPlain c = true ∧ c ≠ '\x27' := by
  intro c member
  constructor
  · refine (isPlain_of_not_controls clean c member).resolve_right ?_
    rintro rfl
    exact not_mem_of_not_broken unbroken member
  · rintro rfl
    exact not_mem_of_longestRun singles member

theorem form_eq_single (form : (TextTraits.of chars).form = .single) :
    ∀ c ∈ chars, isPlain c = true ∧ c ≠ '\x27' := by
  have traits : (TextTraits.of chars).controls = false ∧ (TextTraits.of chars).broken = false ∧
      (TextTraits.of chars).singles = 0 := by
    unfold TextTraits.form at form
    generalize TextTraits.of chars = traits at form
    grind
  exact fitsSingle_of_traits traits.1 traits.2.1 traits.2.2

theorem form_eq_tripleSingle (form : (TextTraits.of chars).form = .tripleSingle) :
    (∀ c ∈ chars, isPlain c = true ∨ c = '\n') ∧ RunsWithin '\x27' 2 0 chars := by
  have traits : (TextTraits.of chars).controls = false ∧ (TextTraits.of chars).singles ≤ 2 := by
    unfold TextTraits.form at form
    generalize TextTraits.of chars = traits at form
    grind
  exact ⟨isPlain_of_not_controls traits.1, runsWithin_of_longestRun traits.2⟩

end Form

/-! ### Texts read back -/

section Reading

variable {stop : Char}

theorem string_of_double (chars : List Char) (outside : stop ≠ '\x22') (rest : List Char) :
    string ('\x22' :: (escapedLine chars ++ '\x22' :: stop :: rest)) =
      some (String.ofList chars, stop :: rest) := by
  have line : string ('\x22' :: (escapedLine chars ++ '\x22' :: stop :: rest)) =
      quotedText '\x22' true (escapedLine chars ++ '\x22' :: stop :: rest) [] := by
    cases chars with
    | nil =>
        unfold string
        split <;> simp_all [escapedLine]
    | cons c chars =>
        rw [escapedLine, List.flatMap_cons]
        have form := isWrittenAs_escaped c
        generalize escaped c = written at form
        unfold string
        cases form <;> split <;> simp_all
  rw [line, quotedText_escapedLine]
  rfl

theorem string_of_single {chars : List Char} (plain : ∀ c ∈ chars, isPlain c = true ∧ c ≠ '\x27')
    (outside : stop ≠ '\x27') (rest : List Char) :
    string ('\x27' :: (chars ++ '\x27' :: stop :: rest)) =
      some (String.ofList chars, stop :: rest) := by
  have line : string ('\x27' :: (chars ++ '\x27' :: stop :: rest)) =
      quotedText '\x27' false (chars ++ '\x27' :: stop :: rest) [] := by
    unfold string
    cases chars <;> split <;> simp_all
  rw [line, quotedText_raw plain]
  rfl

/-- A content that does not begin with a line end, when no line feed is written in front of it. -/
def BeginsVisibly (content : List Char) : Prop :=
  ∃ c behind, content = c :: behind ∧ c ≠ '\n' ∧ c ≠ '\r'

theorem afterFirstLineEnd_opening {broken : Bool} {content : List Char}
    (begins : broken = false → BeginsVisibly content) :
    afterFirstLineEnd ((if broken = true then ['\n'] else []) ++ content) = content := by
  cases broken with
  | true => rfl
  | false =>
      obtain ⟨c, behind, rfl, feed, back⟩ := begins rfl
      simp only [Bool.false_eq_true, if_false, List.nil_append]
      unfold afterFirstLineEnd lineEnd?
      split <;> simp_all

theorem beginsVisibly_of_isPlain {c : Char} (plain : isPlain c = true) (behind : List Char) :
    BeginsVisibly (c :: behind) := by
  refine ⟨c, behind, rfl, ?_, ?_⟩
  · rintro rfl
    exact absurd plain (by decide)
  · rintro rfl
    exact absurd plain (by decide)

theorem beginsVisibly_escapedLines {chars : List Char} (unbroken : '\n' ∉ chars)
    (behind : List Char) :
    BeginsVisibly (escapedLines 0 chars ++ (List.replicate 3 '\x22' ++ behind)) := by
  cases chars with
  | nil => exact beginsVisibly_of_isPlain (by decide) _
  | cons c chars =>
      have visible : c ≠ '\n' := fun same => unbroken (same ▸ List.mem_cons_self)
      unfold escapedLines
      by_cases isQuote : c = '\x22'
      · rw [if_pos isQuote, if_pos (by decide), isQuote]
        exact beginsVisibly_of_isPlain (by decide) _
      · rw [if_neg isQuote, if_neg visible]
        have form := isWrittenAs_escaped c
        generalize escaped c = written at form
        cases form with
        | itself plain _ _ => exact beginsVisibly_of_isPlain plain _
        | coded _ => exact beginsVisibly_of_isPlain (by decide) _

theorem beginsVisibly_raw {chars : List Char} (plain : ∀ c ∈ chars, isPlain c = true ∨ c = '\n')
    (unbroken : '\n' ∉ chars) (behind : List Char) :
    BeginsVisibly (chars ++ (List.replicate 3 '\x27' ++ behind)) := by
  cases chars with
  | nil => exact beginsVisibly_of_isPlain (by decide) _
  | cons c chars =>
      have visible : c ≠ '\n' := fun same => unbroken (same ▸ List.mem_cons_self)
      exact beginsVisibly_of_isPlain ((plain c List.mem_cons_self).resolve_right visible) _

def opening (chars : List Char) : List Char :=
  if (TextTraits.of chars).broken then ['\n'] else []

theorem string_of_tripleDouble (chars : List Char) (outside : stop ≠ '\x22') (rest : List Char) :
    string (List.replicate 3 '\x22' ++ (opening chars ++
        (escapedLines 0 chars ++ (List.replicate 3 '\x22' ++ stop :: rest)))) =
      some (String.ofList chars, stop :: rest) := by
  change multilineText '\x22' true (afterFirstLineEnd (opening chars ++ _)) [] = _
  rw [opening, afterFirstLineEnd_opening fun unbroken =>
    beginsVisibly_escapedLines (not_mem_of_not_broken unbroken) (stop :: rest)]
  exact multilineText_escapedLines (Nat.zero_le 2) outside chars rest []

theorem string_of_tripleSingle {chars : List Char} (form : (TextTraits.of chars).form = .tripleSingle)
    (outside : stop ≠ '\x27') (rest : List Char) :
    string (List.replicate 3 '\x27' ++ (opening chars ++
        (chars ++ (List.replicate 3 '\x27' ++ stop :: rest)))) =
      some (String.ofList chars, stop :: rest) := by
  obtain ⟨plain, runs⟩ := form_eq_tripleSingle form
  change multilineText '\x27' false (afterFirstLineEnd (opening chars ++ _)) [] = _
  rw [opening, afterFirstLineEnd_opening fun unbroken =>
    beginsVisibly_raw plain (not_mem_of_not_broken unbroken) (stop :: rest)]
  exact multilineText_raw (by decide) outside plain (Nat.zero_le 2) runs rest []

/-- A text is read back from the form in which it is written. -/
theorem string_quoted (text : String) (noDouble : stop ≠ '\x22') (noSingle : stop ≠ '\x27')
    (rest : List Char) :
    string ((quoted text).toList ++ stop :: rest) = some (text, stop :: rest) := by
  have whole : String.ofList text.toList = text := String.ofList_toList
  unfold quoted
  dsimp only
  cases form : (TextTraits.of text.toList).form with
  | double =>
      have read := string_of_double text.toList noDouble rest
      rw [whole] at read
      simpa using read
  | single =>
      have read := string_of_single (form_eq_single form) noSingle rest
      rw [whole] at read
      simpa using read
  | tripleDouble =>
      have read := string_of_tripleDouble text.toList noDouble rest
      rw [whole] at read
      simpa [opening] using read
  | tripleSingle =>
      have read := string_of_tripleSingle form noSingle rest
      rw [whole] at read
      simpa [opening] using read

/-! ### Keys read back -/

theorem simpleKey_of_bare {first stop : Char} {others : List Char} (rest : List Char)
    (bare : ∀ c ∈ first :: others, isBareKeyChar c = true) (outside : isBareKeyChar stop = false) :
    simpleKey (first :: others ++ stop :: rest) =
      some (String.ofList (first :: others), stop :: rest) := by
  have span : (first :: others ++ stop :: rest).takeWhile isBareKeyChar = first :: others := by
    rw [List.takeWhile_append_of_pos bare, List.takeWhile_cons_of_neg (by simp [outside]),
      List.append_nil]
  have visible := bare first List.mem_cons_self
  unfold simpleKey
  split
  next same =>
    cases same
    exact absurd visible (by decide)
  next same =>
    cases same
    exact absurd visible (by decide)
  next =>
    dsimp only
    rw [span, if_neg (by simp), List.drop_left]

/-- A key is read back up to the character behind it. -/
theorem simpleKey_keyText (name : String) (outside : isBareKeyChar stop = false)
    (rest : List Char) :
    simpleKey ((keyText name).toList ++ stop :: rest) = some (name, stop :: rest) := by
  have whole : String.ofList name.toList = name := String.ofList_toList
  unfold keyText
  dsimp only
  split
  next bare =>
    rw [Bool.and_eq_true] at bare
    cases chars : name.toList with
    | nil => simp [chars] at bare
    | cons first others =>
        rw [chars] at bare whole
        have read := simpleKey_of_bare rest (List.all_eq_true.mp bare.2) outside
        rwa [whole] at read
  next =>
    split
    next single =>
      have traits : (TextTraits.of name.toList).controls = false ∧
          (TextTraits.of name.toList).broken = false ∧ (TextTraits.of name.toList).singles = 0 := by
        generalize TextTraits.of name.toList = traits at single
        grind
      have plain := fitsSingle_of_traits traits.1 traits.2.1 traits.2.2
      have read := quotedText_raw plain (stop :: rest) []
      rw [List.reverse_nil, List.nil_append, whole] at read
      simpa [simpleKey] using read
    next =>
      have read := quotedText_escapedLine name.toList (stop :: rest) []
      rw [List.reverse_nil, List.nil_append, whole] at read
      simpa [simpleKey] using read

end Reading

end Toml
end BuildNotices
