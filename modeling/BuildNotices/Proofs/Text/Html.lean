import BuildNotices.Text.Digits
import BuildNotices.Text.Html
/-!
What escaping makes of a text.

A reader of HTML takes an ampersand for the beginning of a character reference, which gives its
character by name or by code point and ends with a semicolon. Read in this way, an escaped text is
the text that was escaped. Until then it has none of the characters that make tags and values.
-/

namespace BuildNotices
namespace Text
namespace Html

/-! ### Reading character references -/

/-- The character of a reference: one of four has a name, and any has a code point in hexadecimal
digits. -/
def referent? (name : List Char) : Option Char :=
  match name with
  | ['a', 'm', 'p'] => some '&'
  | ['l', 't'] => some '<'
  | ['g', 't'] => some '>'
  | ['q', 'u', 'o', 't'] => some '\x22'
  | '#' :: 'x' :: first :: digits => (hexNumber? (first :: digits)).map Char.ofNat
  | _ => none

/-- The character that a reference at the beginning of a text stands for, and what is behind it. -/
def characterReference? (chars : List Char) : Option (Char × List Char) :=
  match chars with
  | '&' :: rest =>
      match rest.dropWhile (· != ';') with
      | _ :: behind => (referent? (rest.takeWhile (· != ';'))).map fun c => (c, behind)
      | [] => none
  | _ => none

theorem length_behind_reference {chars behind : List Char} {c : Char}
    (found : characterReference? chars = some (c, behind)) : behind.length < chars.length := by
  unfold characterReference? at found
  split at found
  next rest =>
    split at found
    next mark inner ending =>
      obtain ⟨_, _, same⟩ := Option.map_eq_some_iff.mp found
      cases same
      have whole := (List.dropWhile_suffix (· != ';') (l := rest)).length_le
      rw [ending, List.length_cons] at whole
      rw [List.length_cons]
      omega
    next => cases found
  next => cases found

def unescapeChars (chars : List Char) : List Char :=
  match chars with
  | [] => []
  | c :: rest =>
      match _found : characterReference? (c :: rest) with
      | some (named, behind) => named :: unescapeChars behind
      | none => c :: unescapeChars rest
termination_by chars.length
decreasing_by
  · exact length_behind_reference _found
  · exact Nat.lt_succ_self rest.length

/-- A text with its character references read; an ampersand that begins none stands for itself. -/
def unescape (text : String) : String :=
  String.ofList (unescapeChars text.toList)

theorem unescapeChars_of_some {chars behind : List Char} {c : Char}
    (found : characterReference? chars = some (c, behind)) :
    unescapeChars chars = c :: unescapeChars behind := by
  cases chars with
  | nil => cases found
  | cons first rest =>
      rw [unescapeChars]
      split
      next named after same =>
        rw [found] at same
        cases same
        rfl
      next missing =>
        rw [found] at missing
        cases missing

theorem unescapeChars_of_none {c : Char} {rest : List Char}
    (missing : characterReference? (c :: rest) = none) :
    unescapeChars (c :: rest) = c :: unescapeChars rest := by
  rw [unescapeChars]
  split
  next named behind found =>
    rw [missing] at found
    cases found
  next => rfl

/-! ### Escaped texts -/

/-- The characters that enclose a tag or a value, or set a value off from its name. -/
def delimiters : List Char := ['<', '>', '\x22', '\x27', '\x60', '=']

/-- The character belongs to tags and values or begins a reference. -/
def IsSpecial (c : Char) : Prop :=
  c ∈ '&' :: delimiters

/-- The written text can stand for the other one in HTML: nothing in it belongs to tags and values,
and it is read as that text. A text without special characters is written as it is. -/
structure Writes (written text : String) : Prop where
  inert : ∀ c ∈ written.toList, c ∉ delimiters
  readBack : unescape written = text
  plain : (∀ c ∈ text.toList, ¬ IsSpecial c) → written = text

theorem escapeChar_of_not_special {c : Char} (plain : ¬ IsSpecial c) : escapeChar c = [c] := by
  simp only [IsSpecial, delimiters, List.mem_cons, List.not_mem_nil, or_false, not_or] at plain
  obtain ⟨ampersand, less, greater, quote, apostrophe, grave, equals⟩ := plain
  unfold escapeChar
  split
  all_goals first | contradiction | rfl

theorem characterReference?_escapeChar_append {c : Char} (special : IsSpecial c)
    (rest : List Char) : characterReference? (escapeChar c ++ rest) = some (c, rest) := by
  simp only [IsSpecial, delimiters, List.mem_cons, List.not_mem_nil, or_false] at special
  rcases special with rfl | rfl | rfl | rfl | rfl | rfl | rfl
  all_goals rfl

theorem not_mem_delimiters_of_mem_escapeChar {c written : Char} (member : written ∈ escapeChar c) :
    written ∉ delimiters := by
  by_cases special : IsSpecial c
  · have inert : ('&' :: delimiters).all (fun other =>
        (escapeChar other).all fun shown => !delimiters.contains shown) = true := rfl
    simpa using List.all_eq_true.mp (List.all_eq_true.mp inert c special) written member
  · rw [escapeChar_of_not_special special, List.mem_singleton] at member
    subst member
    exact fun delimiter => special (List.mem_cons_of_mem '&' delimiter)

theorem characterReference?_of_not_special {c : Char} (plain : ¬ IsSpecial c) (rest : List Char) :
    characterReference? (c :: rest) = none := by
  unfold characterReference?
  split
  next opened =>
    cases opened
    exact absurd List.mem_cons_self plain
  next => rfl

theorem unescapeChars_flatMap_escapeChar (chars : List Char) :
    unescapeChars (chars.flatMap escapeChar) = chars := by
  induction chars with
  | nil => rw [List.flatMap_nil, unescapeChars]
  | cons c rest ih =>
      rw [List.flatMap_cons]
      by_cases special : IsSpecial c
      · rw [unescapeChars_of_some (characterReference?_escapeChar_append special _), ih]
      · rw [escapeChar_of_not_special special, List.singleton_append,
          unescapeChars_of_none (characterReference?_of_not_special special _), ih]

theorem flatMap_escapeChar_of_plain {chars : List Char} (plain : ∀ c ∈ chars, ¬ IsSpecial c) :
    chars.flatMap escapeChar = chars := by
  induction chars with
  | nil => rfl
  | cons c rest ih =>
      obtain ⟨here, behind⟩ := List.forall_mem_cons.mp plain
      rw [List.flatMap_cons, escapeChar_of_not_special here, List.singleton_append, ih behind]

theorem escape_writes (text : String) : Writes (escape text) text where
  inert := by
    intro c member
    rw [escape, String.toList_ofList] at member
    obtain ⟨_, _, written⟩ := List.mem_flatMap.mp member
    exact not_mem_delimiters_of_mem_escapeChar written
  readBack := by
    rw [unescape, escape, String.toList_ofList, unescapeChars_flatMap_escapeChar,
      String.ofList_toList]
  plain := by
    intro plain
    rw [escape, flatMap_escapeChar_of_plain plain, String.ofList_toList]

end Html
end Text
end BuildNotices
