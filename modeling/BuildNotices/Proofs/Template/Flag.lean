import BuildNotices.Proofs.Template.Exchange
import BuildNotices.Proofs.Text.Field
import BuildNotices.Proofs.Text.Letter
/-!
The flag that decides.

In a list of modifiers the last one that sets the escape flag decides, so other modifiers can be
put into the list anywhere, and further flags in front of the last one. A single modifier sets the
flag when it has the key, with blanks around, in front of its first equals sign.
-/

namespace BuildNotices
namespace Template

open Text

/-! ### How a flag is written -/

/-- The word for a true value in small letters or capitals, with quotes around it and blanks
around these. -/
def IsSpelledTrue (value : List Char) : Prop :=
  ∃ word opening closing, InEitherCase word "true".toList ∧
    Pads (List.replicate opening '\x22' ++ (word ++ List.replicate closing '\x22')) value

theorem stripWhile_quotes {word : List Char} (unquoted : ∀ c ∈ word, c ≠ '\x22')
    (opening closing : Nat) :
    stripWhile (· = '\x22')
      (List.replicate opening '\x22' ++ (word ++ List.replicate closing '\x22')) = word := by
  have quotes (count : Nat) : ∀ c ∈ List.replicate count '\x22', decide (c = '\x22') = true :=
    fun c member => decide_eq_true (List.eq_of_mem_replicate member)
  rw [stripWhile_append_left (quotes opening), stripWhile_append_right (quotes closing)]
  exact stripWhile_of_kept fun c member => decide_eq_false (unquoted c member)

theorem exists_quotes_around_stripWhile (chars : List Char) :
    ∃ opening closing, chars = List.replicate opening '\x22' ++
      (stripWhile (· = '\x22') chars ++ List.replicate closing '\x22') := by
  obtain ⟨before, after, quotes, quotes', whole⟩ :=
    exists_dropped_around_stripWhile (fun c => decide (c = '\x22')) chars
  have front := List.eq_replicate_of_mem fun c member => of_decide_eq_true (quotes c member)
  have back := List.eq_replicate_of_mem fun c member => of_decide_eq_true (quotes' c member)
  refine ⟨before.length, after.length, ?_⟩
  rw [← front, ← back]
  exact whole

theorem meansTrue_iff {value : List Char} : MeansTrue value ↔ IsSpelledTrue value := by
  have small : ∀ letter ∈ "true".toList, letter.isLower = true := List.all_eq_true.mp rfl
  constructor
  · intro true
    obtain ⟨opening, closing, whole⟩ := exists_quotes_around_stripWhile (trim value)
    exact ⟨_, opening, closing, (map_toLower_eq_iff small).mp true, whole ▸ pads_trim value⟩
  · rintro ⟨word, opening, closing, spelled, padded⟩
    have plain : ∀ c ∈ word, (!isBlank c && c ≠ '\x22') = true := spelled.forall_mem rfl
    simp only [Bool.and_eq_true, Bool.not_eq_true', decide_eq_true_eq] at plain
    have kept : ∀ c ∈ List.replicate opening '\x22' ++ (word ++ List.replicate closing '\x22'),
        isBlank c = false := by
      intro c member
      simp only [List.mem_append, List.mem_replicate] at member
      rcases member with ⟨_, rfl⟩ | inside | ⟨_, rfl⟩
      · rfl
      · exact (plain c inside).1
      · rfl
    rw [MeansTrue, (Pads.iff_trim_eq kept).mp padded,
      stripWhile_quotes fun c member => (plain c member).2]
    exact (map_toLower_eq_iff small).mpr spelled

theorem setsEscape_iff {modifier value : List Char} :
    SetsEscape modifier value ↔
      ∃ key, Pads "escape".toList key ∧ modifier = key ++ '=' :: value := by
  have kept : ∀ c ∈ "escape".toList, isBlank c = false := fun c member =>
    Bool.eq_false_iff.mpr (List.any_eq_false.mp rfl c member)
  constructor
  · rintro ⟨key, split, _, named⟩
    exact ⟨key, (Pads.iff_trim_eq kept).mpr named, split⟩
  · rintro ⟨key, padded, split⟩
    exact ⟨key, split, padded.not_mem rfl (by decide), (Pads.iff_trim_eq kept).mp padded⟩

theorem flag?_eq_some_iff {modifier : List Char} {flag : Bool} :
    flag? modifier = some flag ↔
      ∃ value, SetsEscape modifier value ∧ (flag = true ↔ MeansTrue value) := by
  constructor
  · intro found
    obtain ⟨value, sets, rfl⟩ := setsEscape_of_flag? found
    exact ⟨value, sets, decide_eq_true_iff⟩
  · rintro ⟨value, sets, meaning⟩
    rw [flag?_of_setsEscape sets, Option.some.injEq, Bool.eq_iff_iff, decide_eq_true_iff]
    exact meaning.symm

/-! ### Modifiers that make no difference -/

/-- Modifiers that set no flag, or stand in front of one that does, change nothing. -/
theorem escapeFlag_insert {inserted after : List Char} (listed : AreModifiers after)
    (idle : ¬ SetsFlag inserted ∨ SetsFlag after) (before : List Char) :
    escapeFlag (before ++ ',' :: (inserted ++ after)) = escapeFlag (before ++ after) := by
  have regrouped : before ++ ',' :: (inserted ++ after) = before ++ ',' :: inserted ++ after := by
    rw [List.append_assoc, List.cons_append]
  rw [regrouped, listed.escapeFlag_append, listed.escapeFlag_append, escapeFlag_append]
  rcases idle with silent | later
  · rw [escapeFlag_eq_none_iff.mpr silent, Option.none_or]
  · cases found : escapeFlag after with
    | none => exact absurd later (escapeFlag_eq_none_iff.mp found)
    | some flag => rw [Option.some_or, Option.some_or]

theorem resolve_insert (bindings : Variables) {name before inserted after : List Char}
    (named : IsName name) (listed : AreModifiers before) (closed : '\x7d' ∉ inserted)
    (listed' : AreModifiers after) (idle : ¬ SetsFlag inserted ∨ SetsFlag after)
    (left right : String) :
    resolve (left ++ String.ofList
        (Reference.text ⟨name, before ++ ',' :: (inserted ++ after)⟩) ++ right) bindings =
      resolve (left ++ String.ofList (Reference.text ⟨name, before ++ after⟩) ++ right)
        bindings := by
  have own : AreModifiers (',' :: inserted) := Or.inr ⟨inserted, rfl, closed⟩
  have longer : Reference.WellFormed ⟨name, before ++ ',' :: (inserted ++ after)⟩ :=
    ⟨named, listed.append (own.append listed')⟩
  have shorter : Reference.WellFormed ⟨name, before ++ after⟩ := ⟨named, listed.append listed'⟩
  exact resolve_exchange bindings longer shorter rfl (escapeFlag_insert listed' idle before)
    left right

/-- Of two lists the later one decides if it says anything. A single modifier says something
exactly when it sets the escape flag, namely whether its value means true, and both can be read off
the way it is written. So modifiers that set no flag, or stand in front of one that does, can be
put anywhere into the list of a reference, wherever the reference stands in a template. -/
theorem last_escape_flag_decides :
    (∀ first second : List Char,
      escapeFlag (first ++ ',' :: second) = (escapeFlag second).or (escapeFlag first)) ∧
    (∀ modifier : List Char, ',' ∉ modifier → ∀ flag : Bool,
      escapeFlag modifier = some flag ↔
        ∃ value, SetsEscape modifier value ∧ (flag = true ↔ MeansTrue value)) ∧
    (∀ modifier value : List Char,
      SetsEscape modifier value ↔
        ∃ key, Pads "escape".toList key ∧ modifier = key ++ '=' :: value) ∧
    (∀ value : List Char, MeansTrue value ↔ IsSpelledTrue value) ∧
    (∀ (bindings : Variables) (name before inserted after : List Char), IsName name →
      AreModifiers before → '\x7d' ∉ inserted → AreModifiers after →
      ¬ SetsFlag inserted ∨ SetsFlag after →
      ∀ left right : String,
        resolve (left ++ String.ofList
            (Reference.text ⟨name, before ++ ',' :: (inserted ++ after)⟩) ++ right) bindings =
          resolve (left ++ String.ofList (Reference.text ⟨name, before ++ after⟩) ++ right)
            bindings) := by
  refine ⟨escapeFlag_append, ?_, ?_, ?_, ?_⟩
  · intro modifier single flag
    rw [escapeFlag_of_not_mem single, flag?_eq_some_iff]
  · intro modifier value
    exact setsEscape_iff
  · intro value
    exact meansTrue_iff
  · intro bindings name before inserted after named listed closed listed' idle left right
    exact resolve_insert bindings named listed closed listed' idle left right

/-- A flag with blanks and quotes decides, so an earlier flag and the modifier behind that one can
be left out. -/
theorem last_escape_flag_of_crowded_list :
    let bindings : Variables := Dictionary.empty.insert "A" "<b>"
    let last := " escape =\t\x22\x22TRUE\x22 ".toList
    escapeFlag last = some true ∧ SetsFlag (',' :: last) ∧
      resolve "[$\x7bA,b=1,escape=no,note=a=b, escape =\t\x22\x22TRUE\x22 \x7d]" bindings =
        resolve "[$\x7bA,b=1, escape =\t\x22\x22TRUE\x22 \x7d]" bindings := by
  intro bindings last
  obtain ⟨_, single, _, _, insert⟩ := last_escape_flag_decides
  have sets : SetsEscape last "\t\x22\x22TRUE\x22 ".toList :=
    ⟨" escape ".toList, rfl, by decide, by decide⟩
  have flag : escapeFlag last = some true :=
    (single last (by decide) true).mpr ⟨_, sets, iff_of_true rfl (by decide)⟩
  have later : SetsFlag (',' :: last) := ⟨last, by decide, _, sets⟩
  have named : IsName "A".toList := ⟨'A', [], rfl, rfl, List.forall_mem_nil _⟩
  have same := insert bindings "A".toList ",b=1".toList "escape=no,note=a=b".toList (',' :: last)
    named (Or.inr ⟨_, rfl, by decide⟩) (by decide) (Or.inr ⟨_, rfl, by decide⟩) (Or.inr later)
    "[" "]"
  exact ⟨flag, later, same⟩

example :
    resolve "[$\x7bA,escape=true,,escape=\x22 true\x22\x7d]" (Dictionary.empty.insert "A" "<b>") =
      "[<b>]" := by
  decide +kernel

end Template
end BuildNotices
