import BuildNotices.Text.Dictionary
import BuildNotices.Toml.Value
/-!
Readers of TOML values.

A record is written as a table, with unknown entries passed over, or as an array of its
fields in their order, where items behind the last field are passed over too. A field
that is left out keeps its default, if it may be left out.
-/

namespace BuildNotices
namespace Toml

abbrev Reader (α : Type) : Type := Value → Option α

def readText : Reader String
  | .string text => some text
  | _ => none

def readFlag : Reader Bool
  | .boolean value => some value
  | _ => none

def readNatural : Reader Nat
  | .integer value => if 0 ≤ value then some value.toNat else none
  | _ => none

def readList {α : Type} (read : Reader α) : Reader (List α)
  | .array items => items.mapM read
  | _ => none

def readTextMap : Reader (Text.Dictionary String) := fun value => do
  let entries ← value.entries?
  let texts ← entries.mapM fun (name, value) => (readText value).map fun text => (name, text)
  return .ofList texts

/-- Reads one of several names. A name may also be the only key of a table, over a table
or an array that is empty. -/
def readChoice {α : Type} (choices : List (String × α)) : Reader α := fun value => do
  let name ← match value with
    | .string text => some text
    | .table [(name, .table [])] => some name
    | .table [(name, .array [])] => some name
    | _ => none
  (choices.find? fun choice => choice.1 == name).map Prod.snd

/-! ### Records -/

/-- A field of a record: reading its value gives the change that puts it in. -/
structure RecordField (α : Type) where
  name : String
  required : Bool
  read : Reader (α → α)

namespace RecordField

def withDefault {α β : Type} (name : String) (read : Reader β) (put : β → α → α) :
    RecordField α where
  name := name
  required := false
  read := fun value => (read value).map put

def mandatory {α β : Type} (name : String) (read : Reader β) (put : β → α → α) :
    RecordField α where
  name := name
  required := true
  read := fun value => (read value).map put

end RecordField

def readNamed {α : Type} (entries : Entries) : List (RecordField α) → α → Option α
  | [], record => some record
  | field :: fields, record =>
      match entries.find? fun entry => entry.1 == field.name with
      | none => if field.required then none else readNamed entries fields record
      | some (_, value) => do
          let change ← field.read value
          readNamed entries fields (change record)

def readPositional {α : Type} : List (RecordField α) → List Value → α → Option α
  | [], _, record => some record
  | field :: fields, [], record =>
      if (field :: fields).any RecordField.required then none else some record
  | field :: fields, item :: items, record => do
      let change ← field.read item
      readPositional fields items (change record)

def readRecord {α : Type} (fields : List (RecordField α)) (blank : α) : Reader α := fun value =>
  match value with
  | .array items => readPositional fields items blank
  | _ => value.entries?.bind fun entries => readNamed entries fields blank

end Toml
end BuildNotices
