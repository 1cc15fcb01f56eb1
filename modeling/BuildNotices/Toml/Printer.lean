import BuildNotices.Text.Digits
import BuildNotices.Toml.Text
import BuildNotices.Toml.Value
/-!
Writing TOML documents.

A text is written in the plainest form that needs no escapes: in double quotes, in single
quotes, or in three of either. Only a text that fits none of them is written with escapes.
-/

namespace BuildNotices
namespace Toml

open Text

/-! ### Texts -/

structure TextTraits where
  /-- Whether it has a line feed. -/
  broken : Bool
  /-- Whether it has a control character that must be escaped. -/
  controls : Bool
  backslash : Bool
  /-- The most double quotes that follow each other. -/
  doubles : Nat
  /-- The most single quotes that follow each other. -/
  singles : Nat
deriving Repr, DecidableEq

def longestRun (wanted : Char) (chars : List Char) : Nat :=
  (chars.foldl
    (fun (run, longest) c =>
      let run := if c = wanted then run + 1 else 0
      (run, max run longest))
    (0, 0)).2

def TextTraits.of (chars : List Char) : TextTraits where
  broken := chars.contains '\n'
  controls := chars.any fun c => !(isPlain c) && c ≠ '\n'
  backslash := chars.contains '\\'
  doubles := longestRun '\x22' chars
  singles := longestRun '\x27' chars

def escaped (c : Char) : List Char :=
  match c with
  | '\x08' => ['\\', 'b']
  | '\t' => ['\\', 't']
  | '\n' => ['\\', 'n']
  | '\x0c' => ['\\', 'f']
  | '\r' => ['\\', 'r']
  | '\x22' => ['\\', '\x22']
  | '\\' => ['\\', '\\']
  | _ =>
      if isPlain c then [c]
      else
        ['\\', 'u', '0', '0', upperHexDigit (c.toNat / 16), upperHexDigit (c.toNat % 16)]

def escapedLine (chars : List Char) : List Char :=
  chars.flatMap escaped

/-- The characters of a text between three double quotes; line feeds stay, and of quotes in
a row only every third one is escaped. The number says how many quotes stand in front. -/
def escapedLines : (quotes : Nat) → List Char → List Char
  | _, [] => []
  | quotes, c :: rest =>
      if c = '\x22' then
        if quotes < 2 then
          c :: escapedLines (quotes + 1) rest
        else
          '\\' :: c :: escapedLines 0 rest
      else if c = '\n' then
        c :: escapedLines 0 rest
      else
        escaped c ++ escapedLines 0 rest

inductive TextForm where
  | double
  | single
  | tripleDouble
  | tripleSingle
deriving Repr, DecidableEq

def TextTraits.form (traits : TextTraits) : TextForm :=
  if !traits.controls && !traits.backslash && traits.doubles = 0 && !traits.broken then .double
  else if !traits.controls && traits.singles = 0 && !traits.broken then .single
  else if !traits.controls && !traits.backslash && traits.doubles ≤ 2 then .tripleDouble
  else if !traits.controls && traits.singles ≤ 2 then .tripleSingle
  else if traits.broken then .tripleDouble
  else .double

/-- A text as it is written. In triple quotes a text with line feeds starts on a line of
its own. -/
def quoted (text : String) : String :=
  let chars := text.toList
  let traits := TextTraits.of chars
  let opening := if traits.broken then ['\n'] else []
  let between (quotes inside : List Char) : String :=
    String.ofList (quotes ++ inside ++ quotes)
  match traits.form with
  | .double => between ['\x22'] (escapedLine chars)
  | .single => between ['\x27'] chars
  | .tripleDouble =>
      between (List.replicate 3 '\x22') (opening ++ escapedLines 0 chars)
  | .tripleSingle => between (List.replicate 3 '\x27') (opening ++ chars)

/-! ### Keys -/

def keyText (name : String) : String :=
  let chars := name.toList
  if !chars.isEmpty && chars.all isBareKeyChar then
    name
  else
    let traits := TextTraits.of chars
    let plain := !traits.controls && !traits.broken
    if plain && (traits.backslash || traits.doubles ≠ 0) && traits.singles = 0 then
      String.ofList (['\x27'] ++ chars ++ ['\x27'])
    else
      String.ofList (['\x22'] ++ escapedLine chars ++ ['\x22'])

/-! ### Documents -/

inductive Plain where
  | string (text : String)
  | integer (value : Int)
  | boolean (value : Bool)
deriving Repr, DecidableEq

namespace Plain

def written : Plain → String
  | .string text => quoted text
  | .integer value => toString value
  | .boolean true => "true"
  | .boolean false => "false"

def toValue : Plain → Value
  | .string text => .string text
  | .integer value => .integer value
  | .boolean value => .boolean value

end Plain

/-- A table with a header of its own, or one element of an array of tables. -/
structure Section where
  name : String
  isElement : Bool := false
  settings : List (String × Plain)
deriving Repr, DecidableEq

namespace Section

def header (part : Section) : String :=
  if part.isElement then "[[" ++ keyText part.name ++ "]]" else "[" ++ keyText part.name ++ "]"

def written (part : Section) : String :=
  let lines := part.settings.map fun (name, value) =>
    keyText name ++ " = " ++ value.written ++ "\n"
  part.header ++ "\n" ++ String.join lines

end Section

def render (sections : List Section) : String :=
  "\n".intercalate (sections.map Section.written)

end Toml
end BuildNotices
