import BuildNotices.Json.Node
/-!
Readers of JSON trees.

A reader takes a tree apart from left to right and stops at the first thing that
is wrong: a place where the text is malformed, or a value that does not fit. The
number that every reader is given is the number of containers that may still be
opened; the value with one container more is malformed at its start.
-/

namespace BuildNotices
namespace Json

/-- Why a tree could not be read: the text is malformed after some bytes, or a
well-formed value does not fit. -/
inductive Fault where
  | malformed (offset : Nat)
  | mismatch
deriving Repr, DecidableEq

abbrev Reader (α : Type) : Type := Nat → Node → Except Fault α

def nestingLimit : Nat := 127

def Lexeme.fault (lexeme : Lexeme) : Fault :=
  match lexeme.token with
  | .broken _ kept _ => .malformed kept
  | .scalar _ (some place) => .malformed place
  | .scalar _ none => .mismatch
  | _ => .malformed lexeme.place.through

def Lexeme.closes (lexeme : Lexeme) : Except Fault Unit :=
  match lexeme.token with
  | .closeBrace => .ok ()
  | .closeBracket => .ok ()
  | _ => .error (.malformed lexeme.place.through)

def Lexeme.name (lexeme : Lexeme) : Except Fault String :=
  match lexeme.token with
  | .scalar (.string text) none => .ok text
  | _ => .error lexeme.fault

def enter {α : Type} (depth : Nat) (opening : Place)
    (inside : Nat → Except Fault α) : Except Fault α :=
  match depth with
  | 0 => .error (.malformed opening.through)
  | inner + 1 => inside inner

/-! ### Passing over values -/

mutual

/-- Passes over a value that nobody wants; its nesting is not limited. -/
def skip : Node → Except Fault Unit
  | .leaf lexeme =>
      match lexeme.token with
      | .scalar _ _ => .ok ()
      | .broken _ _ skipped => .error (.malformed skipped)
      | _ => .error (.malformed lexeme.place.through)
  | .array _ items closing => do
      skipItems items
      closing.closes
  | .object _ members closing => do
      skipMembers members
      closing.closes

def skipItems : List Node → Except Fault Unit
  | [] => .ok ()
  | item :: rest => do
      skip item
      skipItems rest

def skipMembers : List Node.Member → Except Fault Unit
  | [] => .ok ()
  | (name, value, _) :: rest => do
      match name.token with
      | .broken _ _ skipped => .error (.malformed skipped)
      | _ => skip value
      skipMembers rest

end

/-! ### Whole documents -/

mutual

/-- Keeps a whole value, whatever it is. Of two members with one name the later counts. -/
def readAny (depth : Nat) : Node → Except Fault Json
  | .leaf lexeme =>
      match lexeme.token with
      | .scalar value none => .ok value
      | _ => .error lexeme.fault
  | .array opening items closing =>
      enter depth opening fun inner => do
        let items ← readAnyItems inner items
        closing.closes
        return .array items
  | .object opening members closing =>
      enter depth opening fun inner => do
        let members ← readAnyMembers inner members
        closing.closes
        return record members

def readAnyItems (depth : Nat) : List Node → Except Fault (List Json)
  | [] => .ok []
  | item :: rest => do
      let first ← readAny depth item
      let others ← readAnyItems depth rest
      return first :: others

def readAnyMembers (depth : Nat) : List Node.Member → Except Fault (List (String × Json))
  | [] => .ok []
  | (name, value, _) :: rest => do
      let name ← name.name
      let value ← readAny depth value
      let others ← readAnyMembers depth rest
      return (name, value) :: others

end

/-! ### Readers of plain values -/

def readScalar {α : Type} (accept : Json → Option α) : Reader α := fun _ node =>
  match node with
  | .leaf lexeme =>
      match lexeme.token with
      | .scalar value none =>
          match accept value with
          | some result => .ok result
          | none => .error .mismatch
      | _ => .error lexeme.fault
  | _ => .error .mismatch

def readText : Reader String :=
  readScalar fun
    | .string text => some text
    | _ => none

def readFlag : Reader Bool :=
  readScalar fun
    | .boolean value => some value
    | _ => none

def readNull : Reader Unit :=
  readScalar fun
    | .null => some ()
    | _ => none

def readBelow (bound : Nat) : Reader Nat :=
  readScalar fun
    | .integer value =>
        if 0 ≤ value && value < bound then some value.toNat else none
    | _ => none

def readWord : Reader UInt64 := fun depth node =>
  (readBelow UInt64.size depth node).map fun value => UInt64.ofNat value

/-- Reads `null` as none. A word that only begins like `null` is malformed for every
reader, also for one that would not have looked at it. -/
def readOptional {α : Type} (read : Reader α) : Reader (Option α) := fun depth node =>
  match node with
  | .leaf ⟨_, .scalar .null _⟩ => .ok none
  | .leaf ⟨_, .broken 'n' kept _⟩ => .error (.malformed kept)
  | _ => (read depth node).map some

def readItems {α : Type} (read : Reader α) (depth : Nat) : List Node → Except Fault (List α)
  | [] => .ok []
  | item :: rest => do
      let first ← read depth item
      let others ← readItems read depth rest
      return first :: others

def readList {α : Type} (read : Reader α) : Reader (List α) := fun depth node =>
  match node with
  | .array opening items closing =>
      enter depth opening fun inner => do
        let items ← readItems read inner items
        closing.closes
        return items
  | .leaf lexeme => .error lexeme.fault
  | .object _ _ _ => .error .mismatch

def readTextMembers (depth : Nat) : List Node.Member → Except Fault (List (String × String))
  | [] => .ok []
  | (name, value, _) :: rest => do
      let name ← name.name
      let value ← readText depth value
      let others ← readTextMembers depth rest
      return (name, value) :: others

def readTextMap : Reader (Text.Dictionary String) := fun depth node =>
  match node with
  | .object opening members closing =>
      enter depth opening fun inner => do
        let members ← readTextMembers inner members
        closing.closes
        return .ofList members
  | .leaf lexeme => .error lexeme.fault
  | .array _ _ _ => .error .mismatch

/-! ### Readers of named alternatives -/

/-- One alternative of a choice. It may stand as its bare name, and as an object with
its name over a payload. -/
structure Alternative (α : Type) where
  name : String
  bare : Option α
  payload : Reader α

def Alternative.plain {α : Type} (name : String) (value : α) : Alternative α where
  name := name
  bare := some value
  payload := fun depth node => (readNull depth node).map fun _ => value

/-- The fault of an object that has no name where the name of an alternative should
stand. A value of another kind does not fit, anything else is malformed. -/
def Lexeme.nameFault (lexeme : Lexeme) : Fault :=
  match lexeme.token with
  | .openBrace => .mismatch
  | .openBracket => .mismatch
  | _ => lexeme.fault

/-- Reads one of several alternatives. A value that is neither a text nor an object is
malformed, and so is an object with more than one member. -/
def readChoice {α : Type} (alternatives : List (Alternative α)) : Reader α :=
  fun depth node =>
    match node with
    | .leaf lexeme =>
        match lexeme.token with
        | .scalar (.string text) none =>
            match (alternatives.find? (·.name == text)).bind Alternative.bare with
            | some value => .ok value
            | none => .error .mismatch
        | .scalar (.string _) (some place) => .error (.malformed place)
        | .broken '\x22' kept _ => .error (.malformed kept)
        | _ => .error (.malformed lexeme.place.through)
    | .array opening _ _ => .error (.malformed opening.through)
    | .object opening members closing =>
        enter depth opening fun inner => do
          match members with
          | [] => throw closing.nameFault
          | (name, value, behind) :: rest =>
              let name ← name.name
              match alternatives.find? (·.name == name) with
              | none => throw .mismatch
              | some alternative =>
                  let value ← alternative.payload inner value
                  match rest, closing.token with
                  | [], .closeBrace => return value
                  | _, _ => throw (.malformed behind.before)

/-! ### Reading texts and values -/

structure Position where
  line : Nat
  column : Nat
deriving Repr, DecidableEq

def position (text : String) (offset : Nat) : Position :=
  let start : Nat × Position := (0, ⟨1, offset⟩)
  (text.toList.foldl
    (fun (bytes, found) c =>
      let next := bytes + c.utf8Size
      if c = '\n' && next ≤ offset then (next, ⟨found.line + 1, offset - next⟩)
      else (next, found))
    start).2

inductive Problem where
  | malformed (line column : Nat)
  | mismatch
deriving Repr, DecidableEq

def Fault.problem (text : String) : Fault → Problem
  | .malformed offset =>
      let place := position text offset
      .malformed place.line place.column
  | .mismatch => .mismatch

def parse {α : Type} (read : Reader α) (text : String) : Except Problem α :=
  let document := document text
  let result : Except Fault α := do
    let value ← read nestingLimit document.root
    match document.behind.token with
    | .finish => return value
    | _ => throw (.malformed document.behind.place.through)
  result.mapError (Fault.problem text)

def decode? {α : Type} (read : Reader α) (value : Json) : Option α :=
  (read nestingLimit (Node.ofJson value)).toOption

end Json
end BuildNotices
