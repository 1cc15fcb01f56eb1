import BuildNotices.Text.Dictionary
/-!
JSON documents.

A number is an integer when it is written without fraction and exponent, is not
`-0`, and fits the signed or the unsigned 64-bit range. Any other number is kept
as its literal. Objects built by this library list their members by name, in
code point order.
-/

namespace BuildNotices

open Text

inductive Json where
  | null
  | boolean (value : Bool)
  | integer (value : Int)
  | decimal (literal : String)
  | string (text : String)
  | array (items : List Json)
  | object (members : List (String × Json))
deriving Repr, Inhabited

namespace Json

def record (members : List (String × Json)) : Json :=
  .object (Dictionary.ofList members).entries

def textMap (entries : Dictionary String) : Json :=
  .object (entries.entries.map fun entry => (entry.1, .string entry.2))

def member? (name : String) : Json → Option Json
  | .object members =>
      (members.find? fun entry => entry.1 == name).map Prod.snd
  | _ => none

def text? : Json → Option String
  | .string text => some text
  | _ => none

def ofOption {α : Type} (write : α → Json) : Option α → Json
  | none => .null
  | some value => write value

def ofText? (text : Option String) : Json :=
  ofOption .string text

end Json
end BuildNotices
