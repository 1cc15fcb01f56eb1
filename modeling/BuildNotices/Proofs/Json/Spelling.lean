import BuildNotices.Json.Reader
import BuildNotices.Proofs.Text.Dictionary
import Mathlib.Data.List.Forall2
/-!
Trees that spell documents.

A tree spells a document if it is the tree of a well-formed text of the document, wherever its
tokens stand. What a reader finds in such a tree only depends on the document, so the document is
read in the same way from its own tree and from each of its texts.
-/

namespace BuildNotices
namespace Json

open Text

def IsScalar : Json → Prop
  | .array _ => False
  | .object _ => False
  | _ => True

mutual

/-- A tree of a document without faults. -/
inductive Spells : Node → Json → Prop where
  | scalar {value : Json} (place : Place) (plain : value.IsScalar) :
      Spells (.leaf ⟨place, .scalar value none⟩) value
  | array {nodes : List Node} {items : List Json} (opening closing : Place)
      (each : SpellsItems nodes items) :
      Spells (.array opening nodes ⟨closing, .closeBracket⟩) (.array items)
  | object {nodes : List Node.Member} {members : List (String × Json)} (opening closing : Place)
      (each : SpellsMembers nodes members) :
      Spells (.object opening nodes ⟨closing, .closeBrace⟩) (.object members)

inductive SpellsItems : List Node → List Json → Prop where
  | nil : SpellsItems [] []
  | cons {node : Node} {item : Json} {nodes : List Node} {items : List Json}
      (first : Spells node item) (others : SpellsItems nodes items) :
      SpellsItems (node :: nodes) (item :: items)

inductive SpellsMembers : List Node.Member → List (String × Json) → Prop where
  | nil : SpellsMembers [] []
  | cons {node : Node} {value : Json} {nodes : List Node.Member}
      {members : List (String × Json)} (place behind : Place) (name : String)
      (first : Spells node value) (others : SpellsMembers nodes members) :
      SpellsMembers ((⟨place, .scalar (.string name) none⟩, node, behind) :: nodes)
        ((name, value) :: members)

end

mutual

/-- The tree of a document that comes from no text spells the document. -/
theorem spells_ofJson : (value : Json) → Spells (Node.ofJson value) value
  | .null => .scalar nowhere trivial
  | .boolean _ => .scalar nowhere trivial
  | .integer _ => .scalar nowhere trivial
  | .decimal _ => .scalar nowhere trivial
  | .string _ => .scalar nowhere trivial
  | .array items => .array nowhere nowhere (spellsItems_ofItems items)
  | .object members => .object nowhere nowhere (spellsMembers_ofMembers members)

theorem spellsItems_ofItems : (items : List Json) → SpellsItems (Node.ofItems items) items
  | [] => .nil
  | item :: rest => .cons (spells_ofJson item) (spellsItems_ofItems rest)

theorem spellsMembers_ofMembers : (members : List (String × Json)) →
    SpellsMembers (Node.ofMembers members) members
  | [] => .nil
  | (name, value) :: rest =>
      .cons nowhere nowhere name (spells_ofJson value) (spellsMembers_ofMembers rest)

end

/-- A text that holds one document and nothing behind it. -/
structure IsTextOf (text : String) (value : Json) : Prop where
  spells : Spells (document text).root value
  complete : (document text).behind.token = .finish

section Readers

variable {α : Type} {depth : Nat} {node : Node} {value : Json} {found : α}

theorem parse_of_isTextOf {text : String} {reader : Reader α} (isText : IsTextOf text value)
    (read : ∀ node, Spells node value → reader nestingLimit node = .ok found) :
    parse reader text = .ok found := by
  unfold parse
  dsimp only
  rw [read _ isText.spells, isText.complete]
  rfl

theorem decode?_of_spells {reader : Reader α}
    (read : ∀ node, Spells node value → reader nestingLimit node = .ok found) :
    decode? reader value = some found := by
  unfold decode?
  rw [read _ (spells_ofJson value)]
  rfl

/-! ### Plain values -/

theorem skip_of_spells (spells : Spells node value) (plain : value.IsScalar) :
    skip node = .ok () := by
  cases spells with
  | scalar => rfl
  | array => exact plain.elim
  | object => exact plain.elim

theorem readScalar_of_spells {accept : Json → Option α} (spells : Spells node value)
    (plain : value.IsScalar) (accepted : accept value = some found) :
    readScalar accept depth node = .ok found := by
  cases spells with
  | scalar =>
      unfold readScalar
      dsimp only
      rw [accepted]
  | array => exact plain.elim
  | object => exact plain.elim

theorem readText_of_spells {text : String} (spells : Spells node (.string text)) :
    readText depth node = .ok text :=
  readScalar_of_spells spells trivial rfl

theorem readWord_of_spells {count : UInt64} (spells : Spells node (.integer count.toNat)) :
    readWord depth node = .ok count := by
  have inside : (decide (0 ≤ (count.toNat : Int)) &&
      decide ((count.toNat : Int) < (UInt64.size : Int))) = true := by
    have small := count.toNat_lt
    rw [Bool.and_eq_true, decide_eq_true_eq, decide_eq_true_eq]
    exact ⟨Int.natCast_nonneg _, Int.ofNat_lt.mpr small⟩
  have read : readBelow UInt64.size depth node = .ok count.toNat :=
    readScalar_of_spells spells trivial (if_pos inside)
  unfold readWord
  rw [read]
  exact congrArg Except.ok UInt64.ofNat_toNat

theorem readOptional_null {reader : Reader α} (spells : Spells node .null) :
    readOptional reader depth node = .ok none := by
  cases spells
  rfl

theorem readOptional_some {reader : Reader α} (spells : Spells node value)
    (filled : value ≠ .null) (read : reader depth node = .ok found) :
    readOptional reader depth node = .ok (some found) := by
  have passed : readOptional reader depth node = (reader depth node).map some := by
    cases spells with
    | scalar =>
        cases value with
        | null => exact absurd rfl filled
        | _ => rfl
    | array => rfl
    | object => rfl
  rw [passed, read]
  rfl

theorem readOptional_ofOption {reader : Reader α} {write : α → Json} {option : Option α}
    (filled : ∀ value, write value ≠ .null)
    (read : ∀ value, option = some value → ∀ node, Spells node (write value) →
      reader depth node = .ok value)
    (spells : Spells node (ofOption write option)) :
    readOptional reader depth node = .ok option := by
  cases option with
  | none => exact readOptional_null spells
  | some value => exact readOptional_some spells (filled value) (read value rfl node spells)

theorem readOptional_ofText? {text : Option String} (spells : Spells node (ofText? text)) :
    readOptional readText depth node = .ok text :=
  readOptional_ofOption (fun _ => Json.noConfusion) (fun _ _ _ => readText_of_spells) spells

theorem readOptional_ofText?_map {reader : Reader α} {write : α → String} {option : Option α}
    (read : ∀ value, option = some value → ∀ node, Spells node (.string (write value)) →
      reader depth node = .ok value)
    (spells : Spells node (ofText? (option.map write))) :
    readOptional reader depth node = .ok option := by
  cases option with
  | none => exact readOptional_null spells
  | some value => exact readOptional_some spells Json.noConfusion (read value rfl node spells)

/-! ### Lists and maps -/

theorem readItems_of_spells {reader : Reader α} {items : List Json} {founds : List α}
    (read : List.Forall₂ (fun item found => ∀ node, Spells node item →
      reader depth node = .ok found) items founds)
    {nodes : List Node} (spells : SpellsItems nodes items) :
    readItems reader depth nodes = .ok founds := by
  induction read generalizing nodes with
  | nil =>
      cases spells
      rfl
  | cons readFirst _ ih =>
      cases spells with
      | cons first others =>
          rw [readItems, readFirst _ first, ih others]
          rfl

theorem readList_of_spells {reader : Reader α} {items : List Json} {founds : List α}
    (read : List.Forall₂ (fun item found => ∀ node, Spells node item →
      reader depth node = .ok found) items founds)
    (spells : Spells node (.array items)) :
    readList reader (depth + 1) node = .ok founds := by
  cases spells with
  | scalar place plain => exact plain.elim
  | array opening closing each =>
      unfold readList enter
      dsimp only
      rw [readItems_of_spells read each]
      rfl

theorem readTextMembers_of_spells {entries : List (String × String)} {nodes : List Node.Member}
    (spells : SpellsMembers nodes (entries.map fun entry => (entry.1, .string entry.2))) :
    readTextMembers depth nodes = .ok entries := by
  induction entries generalizing nodes with
  | nil =>
      cases spells
      rfl
  | cons entry entries ih =>
      cases spells with
      | cons place behind name first others =>
          rw [readTextMembers]
          change (readText depth _ >>= fun _ => _) = _
          rw [readText_of_spells first]
          change (readTextMembers depth _ >>= fun _ => _) = _
          rw [ih others]
          rfl

theorem readTextMap_of_spells {entries : Dictionary String}
    (spells : Spells node (.textMap entries)) :
    readTextMap (depth + 1) node = .ok entries := by
  cases spells with
  | scalar place plain => exact plain.elim
  | object opening closing each =>
      unfold readTextMap enter
      dsimp only
      rw [readTextMembers_of_spells each]
      exact congrArg Except.ok (Dictionary.ofList_entries entries)

/-! ### Choices -/

section Choices

variable {alternatives : List (Alternative α)}

/-- An alternative without content is read from its name. -/
theorem readChoice_of_name {name : String}
    (named : (alternatives.find? (·.name == name)).bind Alternative.bare = some found)
    (spells : Spells node (.string name)) :
    readChoice alternatives depth node = .ok found := by
  cases spells
  unfold readChoice
  dsimp only
  rw [named]

/-- An alternative with content is read from an object with its name over the content. -/
theorem readChoice_of_payload {alternative : Alternative α} {name : String}
    (named : alternatives.find? (·.name == name) = some alternative)
    (read : ∀ node, Spells node value → alternative.payload depth node = .ok found)
    (spells : Spells node (.object [(name, value)])) :
    readChoice alternatives (depth + 1) node = .ok found := by
  cases spells with
  | scalar place plain => exact plain.elim
  | object opening closing each =>
      cases each with
      | cons place behind name first others =>
          cases others
          have named' : Lexeme.name ⟨place, .scalar (.string name) none⟩ = pure name := rfl
          unfold readChoice enter
          dsimp only
          rw [named', pure_bind, named]
          dsimp only
          rw [read _ first]
          rfl

end Choices

end Readers

end Json
end BuildNotices
