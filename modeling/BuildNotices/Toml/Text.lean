import BuildNotices.Text.Digits
/-!
The texts inside a TOML document: strings in their four forms, and keys.

A reader takes the characters in front of it and gives its result with the characters
behind, or nothing when the text is malformed.
-/

namespace BuildNotices
namespace Toml

open Text

abbrev Part (α : Type) : Type := List Char → Option (α × List Char)

/-- Whether a character may stand in a line as it is: no control character but the tab. -/
def isPlain (c : Char) : Bool :=
  c = '\t' || (0x20 ≤ c.toNat && c.toNat ≠ 0x7F)

def isLineBlank (c : Char) : Bool :=
  c = ' ' || c = '\t'

def skipBlanks (chars : List Char) : List Char :=
  chars.dropWhile isLineBlank

def skipBlankLines : List Char → List Char
  | ' ' :: rest => skipBlankLines rest
  | '\t' :: rest => skipBlankLines rest
  | '\n' :: rest => skipBlankLines rest
  | '\r' :: '\n' :: rest => skipBlankLines rest
  | rest => rest

def lineEnd? : List Char → Option (List Char)
  | '\n' :: rest => some rest
  | '\r' :: '\n' :: rest => some rest
  | _ => none

def scalar? (point : Nat) : Option Char :=
  if point.isValidChar then some (Char.ofNat point) else none

def numericEscape? (width : Nat) (rest : List Char) : Option (Char × Nat) := do
  let digits := rest.take width
  guard (digits.length = width)
  let point ← hexNumber? digits
  let c ← scalar? point
  return (c, 1 + width)

def escape? (chars : List Char) : Option (Char × Nat) :=
  match chars with
  | 'b' :: _ => some ('\x08', 1)
  | 't' :: _ => some ('\t', 1)
  | 'n' :: _ => some ('\n', 1)
  | 'f' :: _ => some ('\x0c', 1)
  | 'r' :: _ => some ('\r', 1)
  | '\x22' :: _ => some ('\x22', 1)
  | '\\' :: _ => some ('\\', 1)
  | 'u' :: rest => numericEscape? 4 rest
  | 'U' :: rest => numericEscape? 8 rest
  | _ => none

/-! ### Strings on one line -/

/-- Reads a string between quotes, behind the first one; only some strings know escapes. -/
def quotedText (quote : Char) (escapes : Bool) (chars reversed : List Char) :
    Option (String × List Char) :=
  match chars with
  | [] => none
  | c :: rest =>
      if c = quote then
        some (String.ofList reversed.reverse, rest)
      else if c = '\\' && escapes then
        match escape? rest with
        | some (escaped, width) => quotedText quote escapes (rest.drop width) (escaped :: reversed)
        | none => none
      else if isPlain c then
        quotedText quote escapes rest (c :: reversed)
      else
        none
termination_by chars.length
decreasing_by all_goals (simp only [List.length_cons, List.length_drop]; omega)

/-! ### Strings on several lines -/

/-- The number of characters behind a backslash that only joins lines: blanks, a line
end, and all blanks and line ends that follow. -/
def joinWidth? (chars : List Char) : Option Nat :=
  (lineEnd? (skipBlanks chars)).map fun rest => chars.length - (skipBlankLines rest).length

/-- Reads a string between triple quotes, behind the first ones. Up to two quotes may
stand directly in front of the closing ones. A line end is one line feed. -/
def multilineText (quote : Char) (escapes : Bool) (chars reversed : List Char) :
    Option (String × List Char) :=
  match chars with
  | [] => none
  | c :: rest =>
      if c = quote then
        let run := (rest.takeWhile (· = quote)).length
        if 2 ≤ run then
          let inside := List.replicate (min run 4 - 2) quote
          some (String.ofList (inside ++ reversed).reverse, rest.drop (min run 4))
        else
          multilineText quote escapes (rest.drop run)
            (List.replicate (run + 1) quote ++ reversed)
      else if c = '\n' then
        multilineText quote escapes rest ('\n' :: reversed)
      else if c = '\r' then
        if rest.head? = some '\n' then
          multilineText quote escapes (rest.drop 1) ('\n' :: reversed)
        else
          none
      else if c = '\\' && escapes then
        match escape? rest with
        | some (escaped, width) =>
            multilineText quote escapes (rest.drop width) (escaped :: reversed)
        | none =>
            match joinWidth? rest with
            | some width => multilineText quote escapes (rest.drop width) reversed
            | none => none
      else if isPlain c then
        multilineText quote escapes rest (c :: reversed)
      else
        none
termination_by chars.length
decreasing_by all_goals (simp only [List.length_cons, List.length_drop]; omega)

def afterFirstLineEnd (chars : List Char) : List Char :=
  (lineEnd? chars).getD chars

def string : Part String := fun chars =>
  match chars with
  | '\x22' :: '\x22' :: '\x22' :: rest =>
      multilineText '\x22' true (afterFirstLineEnd rest) []
  | '\x27' :: '\x27' :: '\x27' :: rest =>
      multilineText '\x27' false (afterFirstLineEnd rest) []
  | '\x22' :: rest => quotedText '\x22' true rest []
  | '\x27' :: rest => quotedText '\x27' false rest []
  | _ => none

/-! ### Keys -/

def isBareKeyChar (c : Char) : Bool :=
  c.isAlphanum || c = '_' || c = '-'

def simpleKey : Part String := fun chars =>
  match chars with
  | '\x22' :: rest => quotedText '\x22' true rest []
  | '\x27' :: rest => quotedText '\x27' false rest []
  | _ =>
      let name := chars.takeWhile isBareKeyChar
      if name.isEmpty then none else some (String.ofList name, chars.drop name.length)

def keyLimit : Nat := 79

def keyParts : (allowed : Nat) → Part (List String)
  | 0, _ => none
  | allowed + 1, chars => do
      let (first, rest) ← simpleKey (skipBlanks chars)
      match skipBlanks rest with
      | '.' :: rest =>
          let (others, rest) ← keyParts allowed rest
          return (first :: others, rest)
      | rest => return ([first], rest)

def key : Part (List String) :=
  keyParts keyLimit

end Toml
end BuildNotices
