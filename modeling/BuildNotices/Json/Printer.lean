import BuildNotices.Json.Value
import BuildNotices.Text.Digits
/-!
JSON documents as text.

`Json.compact` writes a document on one line, `Json.pretty` with an indentation
of two spaces. Inside a string only the quote, the backslash and the control
characters below the space are escaped.
-/

namespace BuildNotices
namespace Json

def escapeChar (c : Char) : List Char :=
  match c with
  | '\x22' => ['\\', '\x22']
  | '\\' => ['\\', '\\']
  | '\x08' => ['\\', 'b']
  | '\x0c' => ['\\', 'f']
  | '\n' => ['\\', 'n']
  | '\r' => ['\\', 'r']
  | '\t' => ['\\', 't']
  | other =>
      if other.toNat < 0x20 then
        ['\\', 'u', '0', '0', Text.lowerHexDigit (other.toNat / 16),
          Text.lowerHexDigit (other.toNat % 16)]
      else
        [other]

def quoted (text : String) : String :=
  String.ofList ('\x22' :: text.toList.flatMap escapeChar ++ ['\x22'])

def scalarText : Json → String
  | .null => "null"
  | .boolean true => "true"
  | .boolean false => "false"
  | .integer value => toString value
  | .decimal literal => literal
  | .string text => quoted text
  | .array _ => ""
  | .object _ => ""

/-! ### On one line -/

mutual

def compact : Json → String
  | .array items => "[" ++ compactItems items ++ "]"
  | .object members => "\x7b" ++ compactMembers members ++ "\x7d"
  | scalar => scalarText scalar

def compactItems : List Json → String
  | [] => ""
  | [last] => compact last
  | item :: next :: rest => compact item ++ "," ++ compactItems (next :: rest)

def compactMembers : List (String × Json) → String
  | [] => ""
  | [(name, value)] => quoted name ++ ":" ++ compact value
  | (name, value) :: next :: rest =>
      quoted name ++ ":" ++ compact value ++ "," ++ compactMembers (next :: rest)

end

/-! ### On indented lines -/

def freshLine (depth : Nat) : String :=
  "\n" ++ String.ofList (List.replicate (2 * depth) ' ')

mutual

def prettyAt (depth : Nat) : Json → String
  | .array [] => "[]"
  | .array items => "[" ++ prettyItems (depth + 1) items ++ freshLine depth ++ "]"
  | .object [] => "\x7b\x7d"
  | .object members =>
      "\x7b" ++ prettyMembers (depth + 1) members ++ freshLine depth ++ "\x7d"
  | scalar => scalarText scalar

def prettyItems (depth : Nat) : List Json → String
  | [] => ""
  | [last] => freshLine depth ++ prettyAt depth last
  | item :: next :: rest =>
      freshLine depth ++ prettyAt depth item ++ "," ++ prettyItems depth (next :: rest)

def prettyMembers (depth : Nat) : List (String × Json) → String
  | [] => ""
  | [(name, value)] => freshLine depth ++ quoted name ++ ": " ++ prettyAt depth value
  | (name, value) :: next :: rest =>
      freshLine depth ++ quoted name ++ ": " ++ prettyAt depth value ++ "," ++
        prettyMembers depth (next :: rest)

end

def pretty (document : Json) : String :=
  prettyAt 0 document

end Json
end BuildNotices
