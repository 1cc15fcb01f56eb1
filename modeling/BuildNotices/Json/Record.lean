import BuildNotices.Json.Reader
/-!
Readers of records with named fields.

A record is written as an object, in any order and with unknown members passed
over, or as an array of its fields in their order, where the last ones may be
left out. A field that is left out keeps its default, if it may be left out. A
field that is given twice does not fit.
-/

namespace BuildNotices
namespace Json

inductive Presence where
  | nowhere
  /-- An array has to reach as far as the field; an object may do without. -/
  | inArrays
  | everywhere
deriving Repr, DecidableEq

/-- A field of a record: reading its value gives the change that puts it in. -/
structure RecordField (α : Type) where
  name : String
  presence : Presence
  read : Nat → Node → Except Fault (α → α)

namespace RecordField

def of {α β : Type} (presence : Presence) (name : String) (read : Reader β)
    (put : β → α → α) : RecordField α where
  name := name
  presence := presence
  read := fun depth node => (read depth node).map put

def withDefault {α β : Type} (name : String) (read : Reader β) (put : β → α → α) :
    RecordField α :=
  .of .nowhere name read put

def mandatory {α β : Type} (name : String) (read : Reader β) (put : β → α → α) :
    RecordField α :=
  .of .everywhere name read put

def isRequired {α : Type} (field : RecordField α) : Bool :=
  field.presence = .everywhere

def isOmittable {α : Type} (field : RecordField α) : Bool :=
  field.presence = .nowhere

end RecordField

variable {α : Type}

/-- Reads the members of a record that is written as an object. The names that were
read so far come back with the record. -/
def readMembers (fields : List (RecordField α)) (depth : Nat) :
    List Node.Member → List String → α → Except Fault (List String × α)
  | [], seen, record => .ok (seen, record)
  | (name, value, _) :: rest, seen, record => do
      let name ← name.name
      match fields.find? (·.name == name) with
      | none =>
          skip value
          readMembers fields depth rest seen record
      | some field =>
          if seen.contains name then
            throw .mismatch
          let change ← field.read depth value
          readMembers fields depth rest (name :: seen) (change record)

def readPositional (depth : Nat) (closing : Lexeme) :
    List (RecordField α) → List Node → α → Except Fault α
  | [], [], record => do
      closing.closes
      return record
  | [], extra :: _, _ => .error (.malformed extra.place.through)
  | field :: fields, [], record => do
      closing.closes
      if (field :: fields).all RecordField.isOmittable then
        return record
      throw .mismatch
  | field :: fields, item :: items, record => do
      let change ← field.read depth item
      readPositional depth closing fields items (change record)

def readRecord (fields : List (RecordField α)) (blank : α) : Reader α := fun depth node =>
  match node with
  | .leaf lexeme => .error lexeme.fault
  | .object opening members closing =>
      enter depth opening fun inner => do
        let (seen, record) ← readMembers fields inner members [] blank
        closing.closes
        if fields.any fun field => field.isRequired && !seen.contains field.name then
          throw .mismatch
        return record
  | .array opening items closing =>
      enter depth opening fun inner => readPositional inner closing fields items blank

end Json
end BuildNotices
