import BuildNotices.Json.Value
/-!
TOML values.

A number with fraction or exponent and a date are kept as texts. Where a value of any
kind is wanted, a date counts as a table with one entry of a fixed name.
-/

namespace BuildNotices
namespace Toml

inductive Value where
  | string (text : String)
  | integer (value : Int)
  | float (literal : String)
  | boolean (value : Bool)
  | datetime (text : String)
  | array (items : List Value)
  | table (entries : List (String × Value))
deriving Repr, Inhabited

abbrev Entries : Type := List (String × Value)

/-- The name under which a date stands when it is taken for a table. -/
def dateName : String := "$__toml_private_datetime"

mutual

def Value.toJson : Value → Json
  | .string text => .string text
  | .integer value => .integer value
  | .float literal => .decimal literal
  | .boolean value => .boolean value
  | .datetime text => .object [(dateName, .string text)]
  | .array items => .array (itemsToJson items)
  | .table entries => .object (entriesToJson entries)

def itemsToJson : List Value → List Json
  | [] => []
  | item :: rest => item.toJson :: itemsToJson rest

def entriesToJson : Entries → List (String × Json)
  | [] => []
  | (name, value) :: rest => (name, value.toJson) :: entriesToJson rest

end

def Value.entries? : Value → Option Entries
  | .table entries => some entries
  | .datetime text => some [(dateName, .string text)]
  | _ => none

end Toml
end BuildNotices
