import BuildNotices.Proofs.Toml.Number
import BuildNotices.Proofs.Toml.Text
import BuildNotices.Toml.Parser
/-!
Rendered documents line by line.

A rendered document consists of headers, settings and empty lines. Reading such a line does to a
document what the header or the setting says, so reading the whole text is the same as entering
its sections one after the other.
-/

namespace BuildNotices
namespace Toml

/-! ### Sections entered without a text -/

namespace Plain

/-- Whether the reader accepts the value: its integers have 64 bits. -/
def Fits : Plain → Prop
  | .integer value => fits64 value = some value
  | _ => True

@[simp] theorem fits_string (text : String) : (Plain.string text).Fits := True.intro

@[simp] theorem fits_boolean (flag : Bool) : (Plain.boolean flag).Fits := True.intro

end Plain

def AllFit (settings : List (String × Plain)) : Prop :=
  ∀ setting ∈ settings, setting.2.Fits

@[simp] theorem allFit_nil : AllFit [] := List.forall_mem_nil _

@[simp] theorem allFit_cons {setting : String × Plain} {settings : List (String × Plain)} :
    AllFit (setting :: settings) ↔ setting.2.Fits ∧ AllFit settings :=
  List.forall_mem_cons

@[simp] theorem allFit_append {first second : List (String × Plain)} :
    AllFit (first ++ second) ↔ AllFit first ∧ AllFit second :=
  List.forall_mem_append

namespace Document

def set (document : Document) (setting : String × Plain) : Option Document :=
  document.assign [setting.1] setting.2.toValue

def open? (document : Document) (part : Section) : Option Document :=
  if part.isElement then document.openElement [part.name] else document.openTable [part.name]

def enter (document : Document) (part : Section) : Option Document := do
  let opened ← document.open? part
  part.settings.foldlM set opened

end Document

/-! ### The parts of a line -/

/-- A text that starts with a character of a kind. -/
def StartsWith (kind : Char → Prop) (chars : List Char) : Prop :=
  ∃ first others, chars = first :: others ∧ kind first

def IsQuote (c : Char) : Prop :=
  c = '\x22' ∨ c = '\x27'

instance (c : Char) : Decidable (IsQuote c) :=
  inferInstanceAs (Decidable (_ ∨ _))

def OpensKey (c : Char) : Prop :=
  isBareKeyChar c = true ∨ IsQuote c

instance (c : Char) : Decidable (OpensKey c) :=
  inferInstanceAs (Decidable (_ ∨ _))

def OpensInteger (c : Char) : Prop :=
  Text.isDigit c = true ∨ c = '-'

instance (c : Char) : Decidable (OpensInteger c) :=
  inferInstanceAs (Decidable (_ ∨ _))

def OpensPlain (c : Char) : Prop :=
  IsQuote c ∨ OpensInteger c ∨ c = 't' ∨ c = 'f'

instance (c : Char) : Decidable (OpensPlain c) :=
  inferInstanceAs (Decidable (_ ∨ _))

/-- A character is told from another one by its kind. -/
theorem ne_of_kind {kind : Char → Prop} {first c : Char} (isKind : kind first)
    (outside : ¬kind c) : first ≠ c := by
  rintro rfl
  exact outside isKind

theorem keyText_start (name : String) : StartsWith OpensKey (keyText name).toList := by
  unfold keyText
  dsimp only
  split
  next bare =>
    rw [Bool.and_eq_true] at bare
    cases chars : name.toList with
    | nil => simp [chars] at bare
    | cons first others =>
        rw [chars] at bare
        exact ⟨first, others, rfl, Or.inl (List.all_eq_true.mp bare.2 first List.mem_cons_self)⟩
  next =>
    split
    · exact ⟨_, _, String.toList_ofList, Or.inr (Or.inr rfl)⟩
    · exact ⟨_, _, String.toList_ofList, Or.inr (Or.inl rfl)⟩

theorem isLineBlank_eq_false {first : Char} (noSpace : first ≠ ' ') (noTab : first ≠ '\t') :
    isLineBlank first = false := by
  simp [isLineBlank, noSpace, noTab]

theorem skipBlanks_of_start {kind : Char → Prop} {chars : List Char}
    (start : StartsWith kind chars) (noSpace : ¬kind ' ') (noTab : ¬kind '\t')
    (rest : List Char) : skipBlanks (chars ++ rest) = chars ++ rest := by
  obtain ⟨first, others, rfl, isKind⟩ := start
  have visible := isLineBlank_eq_false (ne_of_kind isKind noSpace) (ne_of_kind isKind noTab)
  exact List.dropWhile_cons_of_neg (by simp [visible])

theorem skipBlanks_of_blank {blanks rest : List Char} {stop : Char}
    (blank : ∀ c ∈ blanks, isLineBlank c = true) (visible : isLineBlank stop = false) :
    skipBlanks (blanks ++ stop :: rest) = stop :: rest := by
  unfold skipBlanks
  rw [List.dropWhile_append_of_pos blank, List.dropWhile_cons_of_neg (by simp [visible])]

theorem simpleKey_in_front {name : String} {blanks rest : List Char} {stop : Char}
    (blank : ∀ c ∈ blanks, isLineBlank c = true) (outside : isBareKeyChar stop = false) :
    simpleKey ((keyText name).toList ++ (blanks ++ stop :: rest)) =
      some (name, blanks ++ stop :: rest) := by
  cases blanks with
  | nil => exact simpleKey_keyText name outside rest
  | cons first others =>
      have outsideKeys : isBareKeyChar first = false := by
        have isBlank := blank first List.mem_cons_self
        simp only [isLineBlank, Bool.or_eq_true, decide_eq_true_eq] at isBlank
        rcases isBlank with rfl | rfl
        · decide
        · decide
      exact simpleKey_keyText name outsideKeys (others ++ stop :: rest)

/-- A key of one part is read with the blanks behind it, in front of a visible character. -/
theorem key_keyText (name : String) (blanks : List Char) (stop : Char) (rest : List Char)
    (blank : ∀ c ∈ blanks, isLineBlank c = true) (outside : isBareKeyChar stop = false)
    (visible : isLineBlank stop = false) (noPoint : stop ≠ '.') :
    key ((keyText name).toList ++ (blanks ++ stop :: rest)) = some ([name], stop :: rest) := by
  have start : skipBlanks ((keyText name).toList ++ (blanks ++ stop :: rest)) =
      (keyText name).toList ++ (blanks ++ stop :: rest) :=
    skipBlanks_of_start (keyText_start name) (by decide) (by decide) _
  unfold key keyLimit keyParts
  rw [start, simpleKey_in_front blank outside]
  simp only [Option.bind_eq_bind, Option.bind_some]
  rw [skipBlanks_of_blank blank visible]
  split
  next same => exact absurd (List.cons.inj same).1 noPoint
  next => rfl

/-! ### Values -/

theorem quoted_start (text : String) : StartsWith IsQuote (quoted text).toList := by
  unfold quoted
  dsimp only
  split
  · exact ⟨_, _, String.toList_ofList, Or.inl rfl⟩
  · exact ⟨_, _, String.toList_ofList, Or.inr rfl⟩
  · exact ⟨_, _, String.toList_ofList, Or.inl rfl⟩
  · exact ⟨_, _, String.toList_ofList, Or.inr rfl⟩

theorem toString_start (value : Int) : StartsWith OpensInteger (toString value).toList := by
  cases value with
  | ofNat size =>
      rw [Text.toList_toString_ofNat]
      cases digits : Nat.toDigits 10 size with
      | nil => exact absurd digits Nat.toDigits_ne_nil
      | cons first others =>
          refine ⟨first, others, rfl, Or.inl ?_⟩
          exact Text.isDigit_of_mem_toDigits (digits ▸ List.mem_cons_self)
  | negSucc size => exact ⟨'-', _, Text.toList_toString_negSucc size, Or.inr rfl⟩

theorem written_start (plain : Plain) : StartsWith OpensPlain plain.written.toList := by
  cases plain with
  | string text =>
      obtain ⟨first, others, chars, quote⟩ := quoted_start text
      exact ⟨first, others, chars, Or.inl quote⟩
  | integer value =>
      obtain ⟨first, others, chars, digit⟩ := toString_start value
      exact ⟨first, others, chars, Or.inr (Or.inl digit)⟩
  | boolean flag =>
      cases flag with
      | true => exact ⟨_, _, rfl, Or.inr (Or.inr (Or.inl rfl))⟩
      | false => exact ⟨_, _, rfl, Or.inr (Or.inr (Or.inr rfl))⟩

theorem plainValue_of_quote {first : Char} (quote : IsQuote first) (behind : List Char) :
    value.plainValue (first :: behind) =
      (string (first :: behind)).map fun (text, rest) => (.string text, rest) := by
  unfold value.plainValue
  exact if_pos (by simpa [IsQuote] using quote)

theorem plainValue_of_integer {first : Char} (start : OpensInteger first) (behind : List Char) :
    value.plainValue (first :: behind) = number (first :: behind) := by
  have noDouble : first ≠ '\x22' := ne_of_kind start (by decide)
  have noSingle : first ≠ '\x27' := ne_of_kind start (by decide)
  have noTrue : first ≠ 't' := ne_of_kind start (by decide)
  have noFalse : first ≠ 'f' := ne_of_kind start (by decide)
  unfold value.plainValue
  dsimp only
  rw [if_neg (by simp [noDouble, noSingle]), if_neg noTrue, if_neg noFalse]

theorem plainValue_written (plain : Plain) (fits : plain.Fits) (rest : List Char) :
    value.plainValue (plain.written.toList ++ '\n' :: rest) =
      some (plain.toValue, '\n' :: rest) := by
  cases plain with
  | string text =>
      have read := string_quoted text (by decide : '\n' ≠ '\x22') (by decide) rest
      obtain ⟨first, others, chars, quote⟩ := quoted_start text
      rw [chars, List.cons_append] at read
      rw [Plain.written, chars, List.cons_append, plainValue_of_quote quote, read]
      rfl
  | integer size =>
      have read := number_toString fits rest
      obtain ⟨first, others, chars, digit⟩ := toString_start size
      rw [chars, List.cons_append] at read
      rw [Plain.written, chars, List.cons_append, plainValue_of_integer digit, read]
      rfl
  | boolean flag =>
      cases flag with
      | true =>
          have width : "true".length = 4 := rfl
          simp [Plain.written, value.plainValue, word, Plain.toValue, width]
      | false =>
          have width : "false".length = 5 := rfl
          simp [Plain.written, value.plainValue, word, Plain.toValue, width]

/-- A written value is read back in front of the end of its line. -/
theorem value_written (plain : Plain) (fits : plain.Fits) (depth : Nat) (rest : List Char) :
    value depth (plain.written.toList ++ '\n' :: rest) = some (plain.toValue, '\n' :: rest) := by
  have read := plainValue_written plain fits rest
  cases depth with
  | zero => exact read
  | succ depth =>
      obtain ⟨first, others, chars, start⟩ := written_start plain
      rw [chars, List.cons_append] at read ⊢
      unfold value
      split
      next same => exact absurd (List.cons.inj same).1 (ne_of_kind start (by decide))
      next same => exact absurd (List.cons.inj same).1 (ne_of_kind start (by decide))
      next => exact read

/-! ### Lines -/

section Lines

variable (bound : Nat) (document : Document) (rest : List Char)

/-- An empty line changes nothing. -/
theorem statements_feed :
    statements (bound + 1) document ('\n' :: rest) = statements bound document rest := rfl

/-- A line that says something is a statement up to its end. -/
theorem statements_of_statement {first : Char} {behind : List Char} {result : Option Document}
    (visible : isLineBlank first = false) (filled : startsNothing (first :: behind) = false)
    (read : statement document (first :: behind) = result.map fun later => (later, '\n' :: rest)) :
    statements (bound + 1) document (first :: behind) =
      result.bind fun later => statements bound later rest := by
  have start : skipBlanks (first :: behind) = first :: behind :=
    List.dropWhile_cons_of_neg (by simp [visible])
  rw [statements, start, filled, if_neg (by decide), read]
  · cases result with
    | none => rfl
    | some later => rfl
  · exact List.cons_ne_nil _ _

theorem tableHeader_keyText (name : String) :
    tableHeader ((keyText name).toList ++ ']' :: rest) = some ([name], rest) := by
  have read := key_keyText name [] ']' rest (by simp) (by decide) (by decide) (by decide)
  rw [List.nil_append] at read
  rw [tableHeader, read]
  rfl

theorem elementHeader_keyText (name : String) :
    elementHeader ((keyText name).toList ++ ']' :: ']' :: rest) = some ([name], rest) := by
  have read := key_keyText name [] ']' (']' :: rest) (by simp) (by decide) (by decide) (by decide)
  rw [List.nil_append] at read
  rw [elementHeader, read]
  rfl

/-- The line of a header opens its table. -/
theorem statements_header (part : Section) :
    statements (bound + 1) document (part.header.toList ++ '\n' :: rest) =
      (document.open? part).bind fun opened => statements bound opened rest := by
  unfold Section.header Document.open?
  split
  next =>
    have line : ("[[" ++ keyText part.name ++ "]]").toList ++ '\n' :: rest =
        '[' :: '[' :: ((keyText part.name).toList ++ ']' :: ']' :: '\n' :: rest) := by
      simp [String.toList_append]
    rw [line]
    apply statements_of_statement _ _ _ rfl rfl
    rw [statement, elementHeader_keyText]
    simp only [Option.bind_eq_bind, Option.bind_some]
    cases document.openElement [part.name] with
    | none => rfl
    | some opened => rfl
  next =>
    have line : ("[" ++ keyText part.name ++ "]").toList ++ '\n' :: rest =
        '[' :: ((keyText part.name).toList ++ ']' :: '\n' :: rest) := by
      simp [String.toList_append]
    rw [line]
    apply statements_of_statement _ _ _ rfl rfl
    rw [statement, tableHeader_keyText]
    · simp only [Option.bind_eq_bind, Option.bind_some]
      cases document.openTable [part.name] with
      | none => rfl
      | some opened => rfl
    · intro behind same
      obtain ⟨first, others, chars, start⟩ := keyText_start part.name
      rw [chars] at same
      exact ne_of_kind start (by decide) (List.cons.inj same).1

theorem keyValue_written (name : String) (plain : Plain) (fits : plain.Fits) (depth : Nat) :
    keyValue (value depth)
        ((keyText name).toList ++ ([' '] ++ '=' :: ' ' :: (plain.written.toList ++ '\n' :: rest))) =
      some (([name], plain.toValue), '\n' :: rest) := by
  have blank : ∀ c ∈ [' '], isLineBlank c = true := List.forall_mem_singleton.mpr rfl
  have readKey := key_keyText name [' '] '=' (' ' :: (plain.written.toList ++ '\n' :: rest)) blank
    (by decide) (by decide) (by decide)
  have behind : skipBlanks (' ' :: (plain.written.toList ++ '\n' :: rest)) =
      plain.written.toList ++ '\n' :: rest :=
    skipBlanks_of_start (written_start plain) (by decide) (by decide) _
  rw [keyValue, readKey]
  simp only [Option.bind_eq_bind, Option.bind_some]
  rw [behind, value_written plain fits]
  rfl

/-- The line of a setting puts it into the open table. -/
theorem statements_setting (name : String) (plain : Plain) (fits : plain.Fits) :
    statements (bound + 1) document
        ((keyText name ++ " = " ++ plain.written ++ "\n").toList ++ rest) =
      (document.set (name, plain)).bind fun later => statements bound later rest := by
  obtain ⟨first, others, chars, start⟩ := keyText_start name
  have line : (keyText name ++ " = " ++ plain.written ++ "\n").toList ++ rest =
      (keyText name).toList ++ ([' '] ++ '=' :: ' ' :: (plain.written.toList ++ '\n' :: rest)) := by
    simp [String.toList_append]
  have read := keyValue_written rest name plain fits nestingLimit
  rw [line]
  rw [chars, List.cons_append] at read ⊢
  have filled : startsNothing
      (first :: (others ++ ([' '] ++ '=' :: ' ' :: (plain.written.toList ++ '\n' :: rest)))) =
        false := by
    have noComment : first ≠ '#' := ne_of_kind start (by decide)
    have noFeed : first ≠ '\n' := ne_of_kind start (by decide)
    have noReturn : first ≠ '\r' := ne_of_kind start (by decide)
    simp [startsNothing, noComment, noFeed, noReturn]
  have visible : isLineBlank first = false :=
    isLineBlank_eq_false (ne_of_kind start (by decide)) (ne_of_kind start (by decide))
  have noBracket : first ≠ '[' := ne_of_kind start (by decide)
  apply statements_of_statement _ _ _ visible filled
  rw [statement, read]
  · simp only [Option.bind_eq_bind, Option.bind_some, Document.set]
    cases document.assign [name] plain.toValue with
    | none => rfl
    | some later => rfl
  · intro behind same
    exact noBracket (List.cons.inj same).1
  · intro behind same
    exact noBracket (List.cons.inj same).1

end Lines

/-! ### Whole lines in a row -/

/-- Reading a text of whole lines has an effect on the document, whatever follows. The text has no
more lines than characters, so its length is a bound that lasts for all of them. -/
def Performs (text : String) (effect : Document → Option Document) : Prop :=
  ∃ lines ≤ text.toList.length, ∀ bound document rest,
    statements (lines + bound) document (text.toList ++ rest) =
      (effect document).bind fun later => statements bound later rest

namespace Performs

variable {first second : String} {effect next : Document → Option Document}

theorem empty : Performs "" some :=
  ⟨0, Nat.le_refl 0, fun bound document rest => by rw [Nat.zero_add]; rfl⟩

theorem of_line (filled : first.toList ≠ []) (read : ∀ bound document rest,
    statements (bound + 1) document (first.toList ++ rest) =
      (effect document).bind fun later => statements bound later rest) :
    Performs first effect := by
  refine ⟨1, List.length_pos_iff.mpr filled, ?_⟩
  intro bound document rest
  rw [Nat.add_comm]
  exact read bound document rest

theorem feed : Performs "\n" some :=
  of_line (List.cons_ne_nil _ _) statements_feed

theorem append (former : Performs first effect) (latter : Performs second next) :
    Performs (first ++ second) fun document => (effect document).bind next := by
  obtain ⟨lines, few, read⟩ := former
  obtain ⟨more, fewMore, readMore⟩ := latter
  refine ⟨lines + more, ?_, ?_⟩
  · rw [String.toList_append, List.length_append]
    omega
  · intro bound document rest
    rw [String.toList_append, List.append_assoc, Nat.add_assoc, read]
    dsimp only
    rw [Option.bind_assoc]
    congr 1
    funext later
    exact readMore bound later rest

theorem header (part : Section) : Performs (part.header ++ "\n") fun document => document.open? part := by
  apply of_line
  · simp [String.toList_append]
  · intro bound document rest
    rw [String.toList_append, List.append_assoc]
    exact statements_header bound document rest part

theorem setting (name : String) (plain : Plain) (fits : plain.Fits) :
    Performs (keyText name ++ " = " ++ plain.written ++ "\n")
      fun document => document.set (name, plain) := by
  apply of_line
  · simp [String.toList_append]
  · intro bound document rest
    exact statements_setting bound document rest name plain fits

theorem settings (lines : List (String × Plain)) (fits : AllFit lines) :
    Performs (String.join (lines.map fun (name, value) => keyText name ++ " = " ++ value.written ++ "\n"))
      fun document => lines.foldlM Document.set document := by
  induction lines with
  | nil => exact empty
  | cons line lines ih =>
      have one := setting line.1 line.2 (fits line List.mem_cons_self)
      have others := ih fun other member => fits other (List.mem_cons_of_mem line member)
      rw [List.map_cons, String.join_cons]
      exact one.append others

/-- A written section enters the section. -/
theorem written (part : Section) (fits : AllFit part.settings) :
    Performs part.written fun document => document.enter part :=
  (header part).append (settings part.settings fits)

/-- A rendered document enters its sections in their order. -/
theorem render (sections : List Section)
    (fits : ∀ part ∈ sections, AllFit part.settings) :
    Performs (render sections) fun document => sections.foldlM Document.enter document := by
  induction sections with
  | nil => exact empty
  | cons part sections ih =>
      have one := written part (fits part List.mem_cons_self)
      have others := ih fun other member => fits other (List.mem_cons_of_mem part member)
      cases sections with
      | nil =>
          have alone := one.append empty
          rwa [String.append_empty] at alone
      | cons second sections =>
          have text : Toml.render (part :: second :: sections) =
              part.written ++ ("\n" ++ Toml.render (second :: sections)) := by
            unfold Toml.render
            rw [List.map_cons, List.map_cons, String.intercalate_cons_cons, String.append_assoc]
          rw [text]
          exact one.append (feed.append others)

end Performs

/-- A text of whole lines is read to what it does to the empty document. -/
theorem parse?_of_performs {text : String} {effect : Document → Option Document}
    (performs : Performs text effect) (unmarked : text.toList.head? ≠ some byteOrderMark) :
    parse? text = (effect {}).map fun document => entriesOf document.root := by
  obtain ⟨lines, few, read⟩ := performs
  have whole := read (text.toList.length - lines) {} []
  rw [Nat.add_sub_of_le few, List.append_nil] at whole
  have finished (bound : Nat) (document : Document) :
      statements bound document [] = some document := by
    cases bound with
    | zero => rfl
    | succ bound => rfl
  simp only [finished, Option.bind_fun_some] at whole
  unfold parse?
  cases chars : text.toList with
  | nil =>
      rw [chars] at whole
      exact congrArg (Option.map fun document => entriesOf document.root) whole
  | cons c rest =>
      have noMark : c ≠ byteOrderMark := by
        rintro rfl
        exact unmarked (congrArg List.head? chars)
      rw [chars] at whole
      dsimp only
      rw [if_neg noMark, whole]

end Toml
end BuildNotices
