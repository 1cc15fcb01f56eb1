import BuildNotices.Toml.Value
/-!
TOML documents while they are being read.

A table remembers how it came about, because that decides what may still be added to
it. A header opens each table once, keys with points add only to tables that such keys
made, and no name is given two values.
-/

namespace BuildNotices
namespace Toml

inductive Origin where
  /-- It has a header of its own, or is an element of an array of tables. -/
  | header
  /-- A longer header passes through it. -/
  | implied
  /-- A key with points passes through it. -/
  | dotted
deriving Repr, DecidableEq

inductive Entry where
  | value (value : Value)
  | table (origin : Origin) (entries : List (String × Entry))
  /-- The elements that headers in double brackets open, the earlier ones in reverse; the last one
  can still grow. -/
  | tables (earlier : List (List (String × Entry))) (last : List (String × Entry))
deriving Repr, Inhabited

abbrev Level : Type := List (String × Entry)

/-- Changes what stands under a name; a new name goes to the end. -/
def alter (name : String) (change : Option Entry → Option Entry) : Level → Option Level
  | [] => (change none).map fun entry => [(name, entry)]
  | (present, entry) :: rest =>
      if present = name then
        (change (some entry)).map fun entry => (present, entry) :: rest
      else
        (alter name change rest).map fun rest => (present, entry) :: rest

inductive Way where
  | header
  | key
deriving Repr, DecidableEq

def Way.origin : Way → Origin
  | .header => .implied
  | .key => .dotted

def Way.passes : Way → Origin → Bool
  | .header, _ => true
  | .key, origin => origin ≠ .header

/-- Changes the table at the end of a path. Tables that are missing are made; of an array
of tables the last element counts. -/
def updateAt (way : Way) (change : Origin → Level → Option Level) :
    List String → Origin → Level → Option Level
  | [], origin, level => change origin level
  | name :: path, _, level =>
      level |> alter name fun
        | none => (updateAt way change path way.origin []).map (.table way.origin)
        | some (.table origin inner) =>
            if way.passes origin then
              (updateAt way change path origin inner).map (.table origin)
            else
              none
        | some (.tables earlier last) =>
            (updateAt way change path .header last).map (.tables earlier)
        | some (.value _) => none

def put (name : String) (value : Value) : Level → Option Level :=
  alter name fun
    | none => some (.value value)
    | some _ => none

/-- Puts a value under a key, given by its parts. A key with points ends in a table that
such keys made. -/
def assign (path : List String) (value : Value) (level : Level) : Option Level :=
  match path.getLast? with
  | none => none
  | some name =>
      let above := path.dropLast
      updateAt .key
        (fun origin level =>
          if above.isEmpty || origin = .dotted then put name value level else none)
        above .header level

/-! ### Opening tables -/

def openTable (name : String) : Level → Option Level :=
  alter name fun
    | none => some (.table .header [])
    | some (.table .implied inner) => some (.table .header inner)
    | some _ => none

def openElement (name : String) : Level → Option Level :=
  alter name fun
    | none => some (.tables [] [])
    | some (.tables earlier last) => some (.tables (last :: earlier) [])
    | some _ => none

def underHeader (change : String → Level → Option Level) (path : List String)
    (root : Level) : Option Level :=
  match path.getLast? with
  | none => none
  | some name => updateAt .header (fun _ level => change name level) path.dropLast .header root

structure Document where
  root : Level := []
  place : List String := []
deriving Repr, Inhabited

namespace Document

def openTable (document : Document) (path : List String) : Option Document :=
  (underHeader Toml.openTable path document.root).map fun root => { root, place := path }

def openElement (document : Document) (path : List String) : Option Document :=
  (underHeader Toml.openElement path document.root).map fun root => { root, place := path }

def assign (document : Document) (path : List String) (value : Value) : Option Document :=
  (updateAt .header (fun _ level => Toml.assign path value level) document.place .header
    document.root).map fun root => { document with root }

end Document

/-! ### Finished documents -/

mutual

def Entry.toValue : Entry → Value
  | .value value => value
  | .table _ entries => .table (entriesOf entries)
  | .tables earlier last => .array (tablesOf earlier [.table (entriesOf last)])

def entriesOf : List (String × Entry) → Entries
  | [] => []
  | (name, entry) :: rest => (name, entry.toValue) :: entriesOf rest

def tablesOf : List (List (String × Entry)) → List Value → List Value
  | [], later => later
  | table :: earlier, later => tablesOf earlier (.table (entriesOf table) :: later)

end

end Toml
end BuildNotices
