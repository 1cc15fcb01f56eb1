import BuildNotices.Toml.Document
import BuildNotices.Toml.Number
/-!
Reading TOML documents.

Arrays and inline tables may stand inside each other up to a limit. The readers of lists
are given a number that bounds their items; the length of the text is one.
-/

namespace BuildNotices
namespace Toml

open Text

def nestingLimit : Nat := 79

def skipComment (chars : List Char) : List Char :=
  if chars.head? = some '#' then (chars.drop 1).dropWhile isPlain else chars

def skipFiller : List Char → List Char
  | ' ' :: rest => skipFiller rest
  | '\t' :: rest => skipFiller rest
  | '\n' :: rest => skipFiller rest
  | '\r' :: '\n' :: rest => skipFiller rest
  | '#' :: rest => skipFiller (rest.dropWhile isPlain)
  | rest => rest
termination_by chars => chars.length
decreasing_by
  all_goals
    have shorter := (List.dropWhile_sublist isPlain (l := rest)).length_le
    simp only [List.length_cons]
    omega

/-! ### Values -/

/-- Reads the items of an array, up to the bracket that closes it. A comma may follow the
last item. -/
def arrayItems (read : Part Value) : (bound : Nat) → Part (List Value)
  | 0, _ => none
  | bound + 1, chars =>
      match skipFiller chars with
      | ']' :: rest => some ([], rest)
      | chars => do
          let (item, rest) ← read chars
          match skipFiller rest with
          | ',' :: rest =>
              let (items, rest) ← arrayItems read bound rest
              return (item :: items, rest)
          | ']' :: rest => return ([item], rest)
          | _ => none

def keyValue (read : Part Value) : Part (List String × Value) := fun chars => do
  let (path, rest) ← key chars
  match rest with
  | '=' :: rest =>
      let (value, rest) ← read (skipBlanks rest)
      return ((path, value), rest)
  | _ => none

/-- Reads the entries of an inline table, up to the brace that closes it, on top of those
that were read before. -/
def inlineEntries (read : Part Value) : (bound : Nat) → Level → Part Level
  | 0, _, _ => none
  | bound + 1, level, chars => do
      let ((path, value), rest) ← keyValue read chars
      let level ← assign path value level
      match skipBlanks rest with
      | ',' :: rest => inlineEntries read bound level rest
      | '\x7d' :: rest => return (level, rest)
      | _ => none

def word (text : String) (value : Value) : Part Value := fun chars =>
  if text.toList.isPrefixOf chars then some (value, chars.drop text.length) else none

/-- Reads a value, given how many arrays and inline tables may still be opened. -/
def value : (depth : Nat) → Part Value
  | 0, chars => plainValue chars
  | depth + 1, chars =>
      match chars with
      | '[' :: rest =>
          (arrayItems (value depth) chars.length rest).map fun (items, rest) =>
            (.array items, rest)
      | '\x7b' :: rest =>
          match skipBlanks rest with
          | '\x7d' :: rest => some (.table [], rest)
          | rest =>
              (inlineEntries (value depth) chars.length [] rest).map fun (level, rest) =>
                (.table (entriesOf level), rest)
      | _ => plainValue chars
where
  /-- Reads a value that holds no other values. -/
  plainValue : Part Value := fun chars =>
    match chars with
    | [] => none
    | c :: _ =>
        if c = '\x22' || c = '\x27' then
          (string chars).map fun (text, rest) => (.string text, rest)
        else if c = 't' then
          word "true" (.boolean true) chars
        else if c = 'f' then
          word "false" (.boolean false) chars
        else
          number chars

/-! ### Lines -/

def finishLine (chars : List Char) : Option (List Char) :=
  match skipComment (skipBlanks chars) with
  | [] => some []
  | rest => lineEnd? rest

def tableHeader : Part (List String) := fun chars => do
  let (path, rest) ← key chars
  match rest with
  | ']' :: rest => return (path, rest)
  | _ => none

def elementHeader : Part (List String) := fun chars => do
  let (path, rest) ← key chars
  match rest with
  | ']' :: ']' :: rest => return (path, rest)
  | _ => none

def statement (document : Document) : Part Document := fun chars =>
  match chars with
  | '[' :: '[' :: rest => do
      let (path, rest) ← elementHeader rest
      return (← document.openElement path, rest)
  | '[' :: rest => do
      let (path, rest) ← tableHeader rest
      return (← document.openTable path, rest)
  | _ => do
      let ((path, value), rest) ← keyValue (value nestingLimit) chars
      return (← document.assign path value, rest)

def startsNothing (chars : List Char) : Bool :=
  match chars with
  | [] => true
  | c :: _ => c = '#' || c = '\n' || c = '\r'

def statements : (bound : Nat) → Document → List Char → Option Document
  | _, document, [] => some document
  | 0, _, _ => none
  | bound + 1, document, chars => do
      let chars := skipBlanks chars
      let (document, rest) ←
        if startsNothing chars then some (document, chars) else statement document chars
      let rest ← finishLine rest
      statements bound document rest

def byteOrderMark : Char := '\ufeff'

def parse? (text : String) : Option Entries :=
  let chars := match text.toList with
    | c :: rest => if c = byteOrderMark then rest else c :: rest
    | [] => []
  (statements chars.length {} chars).map fun document => entriesOf document.root

end Toml
end BuildNotices
