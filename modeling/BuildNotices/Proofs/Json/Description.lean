import BuildNotices.Proofs.Json.Record
import BuildNotices.Proofs.Json.Spelling
import Mathlib.Data.List.Nodup
/-!
Records that are written with some of their fields.

A record has one full document, which lists all its fields. Other documents describe it as well: a
field may be left out where reading supplies its value, and members that no field is named by may
stand anywhere, as long as they are scalars. A record is read from all its descriptions.
-/

namespace BuildNotices
namespace Json

/-! ### Nesting -/

mutual

/-- The number of arrays and objects that stand inside each other in a document. -/
def nesting : Json → Nat
  | .array items => nestingOfItems items + 1
  | .object members => nestingOfMembers members + 1
  | _ => 0

def nestingOfItems : List Json → Nat
  | [] => 0
  | item :: rest => max item.nesting (nestingOfItems rest)

def nestingOfMembers : List (String × Json) → Nat
  | [] => 0
  | (_, value) :: rest => max value.nesting (nestingOfMembers rest)

end

theorem nesting_item_le {items : List Json} {item : Json} (member : item ∈ items) :
    item.nesting ≤ nestingOfItems items := by
  induction items with
  | nil => cases member
  | cons first rest ih =>
      rw [nestingOfItems]
      rcases List.mem_cons.mp member with rfl | later
      · exact Nat.le_max_left _ _
      · exact Nat.le_trans (ih later) (Nat.le_max_right _ _)

theorem nesting_member_le {members : List (String × Json)} {name : String} {value : Json}
    (member : (name, value) ∈ members) : value.nesting ≤ nestingOfMembers members := by
  induction members with
  | nil => cases member
  | cons first rest ih =>
      obtain ⟨firstName, firstValue⟩ := first
      rw [nestingOfMembers]
      rcases List.mem_cons.mp member with same | later
      · cases same
        exact Nat.le_max_left _ _
      · exact Nat.le_trans (ih later) (Nat.le_max_right _ _)

theorem nesting_le_of_member {members : List (String × Json)} {name : String} {value : Json}
    {depth : Nat} (shallow : (Json.object members).nesting ≤ depth + 1)
    (member : (name, value) ∈ members) : value.nesting ≤ depth :=
  Nat.le_trans (nesting_member_le member) (Nat.le_of_succ_le_succ shallow)

theorem nesting_le_of_item {items : List Json} {item : Json} {depth : Nat}
    (shallow : (Json.array items).nesting ≤ depth + 1) (member : item ∈ items) :
    item.nesting ≤ depth :=
  Nat.le_trans (nesting_item_le member) (Nat.le_of_succ_le_succ shallow)

/-! ### Descriptions -/

/-- A field of a record as its documents show it. -/
structure WrittenField where
  name : String
  /-- What stands under the name in the full document. -/
  value : Json
  /-- The value that is supplied when the field is left out; a field without one is always given. -/
  fallback : Option Json
  /-- The values that may stand under the name. -/
  Variant : Json → Prop

namespace WrittenField

def mandatory (name : String) (value : Json) : WrittenField :=
  { name, value, fallback := none, Variant := fun variant => variant = value }

def plain (name : String) (value fallback : Json) : WrittenField :=
  { name, value, fallback := some fallback, Variant := fun variant => variant = value }

def nested (name : String) (value fallback : Json) (Variant : Json → Prop) : WrittenField :=
  { name, value, fallback := some fallback, Variant }

end WrittenField

def fullDocument (fields : List WrittenField) : Json :=
  .object (fields.map fun field => (field.name, field.value))

/-- The members of an object describe the fields of a record in their order; `known` are the names
of all its fields. -/
inductive DescribesFields (known : List String) :
    List WrittenField → List (String × Json) → Prop where
  | nil : DescribesFields known [] []
  | kept {field : WrittenField} {fields : List WrittenField} {value : Json}
      {members : List (String × Json)} (variant : field.Variant value)
      (others : DescribesFields known fields members) :
      DescribesFields known (field :: fields) ((field.name, value) :: members)
  /-- A field may be left out where its value is the one that is supplied. -/
  | leftOut {field : WrittenField} {fields : List WrittenField}
      {members : List (String × Json)} (supplied : field.fallback = some field.value)
      (others : DescribesFields known fields members) :
      DescribesFields known (field :: fields) members
  | added {fields : List WrittenField} {name : String} {value : Json}
      {members : List (String × Json)} (unknown : name ∉ known) (plain : value.IsScalar)
      (others : DescribesFields known fields members) :
      DescribesFields known fields ((name, value) :: members)

/-- A document describes a record with the given fields. -/
def Describes (fields : List WrittenField) (document : Json) : Prop :=
  ∃ members, document = .object members ∧
    DescribesFields (fields.map WrittenField.name) fields members

theorem describes_fullDocument {fields : List WrittenField}
    (variants : ∀ field ∈ fields, field.Variant field.value) :
    Describes fields (fullDocument fields) := by
  refine ⟨_, rfl, ?_⟩
  generalize fields.map WrittenField.name = known
  induction fields with
  | nil => exact .nil
  | cons field fields ih =>
      rw [List.forall_mem_cons] at variants
      exact .kept variants.1 (ih variants.2)

def OptionVariant {α : Type} (Variant : α → Json → Prop) : Option α → Json → Prop
  | none, document => document = .null
  | some value, document => Variant value document

theorem optionVariant_ofOption {α : Type} {Variant : α → Json → Prop} {write : α → Json}
    {option : Option α} (variants : ∀ value, option = some value → Variant value (write value)) :
    OptionVariant Variant option (ofOption write option) := by
  cases option with
  | none => rfl
  | some value => exact variants value rfl

def ListVariant {α : Type} (Variant : α → Json → Prop) (values : List α) (document : Json) : Prop :=
  ∃ items, document = .array items ∧ List.Forall₂ Variant values items

theorem listVariant_map {α : Type} {Variant : α → Json → Prop} {write : α → Json}
    {values : List α} (variants : ∀ value ∈ values, Variant value (write value)) :
    ListVariant Variant values (.array (values.map write)) :=
  ⟨_, rfl, List.forall₂_map_right_iff.mpr (List.forall₂_same.mpr variants)⟩

/-! ### Reading -/

section Reading

variable {α : Type} {depth : Nat}

/-- Reading fields one after the other leads from one record to another, whichever of their
variants stand there and whichever of them are left out. -/
inductive Reads (depth : Nat) :
    List (RecordField α) → List WrittenField → α → α → Prop where
  | nil (record : α) : Reads depth [] [] record record
  | cons {field : RecordField α} {fields : List (RecordField α)} {written : WrittenField}
      {writtenFields : List WrittenField} {record next result : α}
      (name : field.name = written.name)
      (given : ∀ value, written.Variant value → ∀ node, Spells node value →
        ∃ change, field.read depth node = .ok change ∧ change record = next)
      (supplied : written.fallback = some written.value → next = record)
      (required : field.isRequired = true → written.fallback = none)
      (others : Reads depth fields writtenFields next result) :
      Reads depth (field :: fields) (written :: writtenFields) record result

namespace Reads

variable {fields : List (RecordField α)} {writtenFields : List WrittenField}
  {record result : α} {β : Type} {name : String} {reader : Reader β} {put : β → α → α}
  {value : Json} {found : β}

theorem names_eq (reads : Reads depth fields writtenFields record result) :
    writtenFields.map WrittenField.name = fields.map RecordField.name := by
  induction reads with
  | nil => rfl
  | cons name _ _ _ _ ih => rw [List.map_cons, List.map_cons, name, ih]

theorem nested {fallback : Json} {Variant : Json → Prop}
    (read : ∀ variant, Variant variant → ∀ node, Spells node variant →
      reader depth node = .ok found)
    (supplied : fallback = value → put found record = record)
    (others : Reads depth fields writtenFields (put found record) result) :
    Reads depth (.withDefault name reader put :: fields)
      (.nested name value fallback Variant :: writtenFields) record result := by
  refine .cons rfl ?_ (fun same => supplied (Option.some.inj same)) nofun others
  intro variant isVariant node spells
  exact ⟨put found, congrArg (Except.map put) (read variant isVariant node spells), rfl⟩

theorem plain {fallback : Json}
    (read : ∀ node, Spells node value → reader depth node = .ok found)
    (supplied : fallback = value → put found record = record)
    (others : Reads depth fields writtenFields (put found record) result) :
    Reads depth (.withDefault name reader put :: fields)
      (.plain name value fallback :: writtenFields) record result :=
  nested (fun _ same => same ▸ read) supplied others

theorem mandatory (read : ∀ node, Spells node value → reader depth node = .ok found)
    (others : Reads depth fields writtenFields (put found record) result) :
    Reads depth (.mandatory name reader put :: fields)
      (.mandatory name value :: writtenFields) record result := by
  refine .cons rfl ?_ nofun (fun _ => rfl) others
  rintro _ rfl node spells
  exact ⟨put found, congrArg (Except.map put) (read node spells), rfl⟩

end Reads

variable {fields : List (RecordField α)} {nodes : List Node.Member} {seen : List String}

theorem find?_field (distinct : (fields.map RecordField.name).Nodup) {field : RecordField α}
    (listed : field ∈ fields) :
    (fields.find? fun other => other.name == field.name) = some field :=
  Text.find?_name listed fun _ firstListed _ secondListed same =>
    List.inj_on_of_nodup_map distinct firstListed secondListed same

/-- What was read of a record up to some field: fields that stand before it, and each of them that
has to be given. -/
structure Accounts (before : List (RecordField α)) (seen : List String) : Prop where
  earlier : ∀ name ∈ seen, name ∈ before.map RecordField.name
  complete : ∀ field ∈ before, field.isRequired = true → field.name ∈ seen

namespace Accounts

variable {before : List (RecordField α)} {field : RecordField α}

theorem unseen (accounts : Accounts before seen)
    (distinct : ((before ++ field :: fields).map RecordField.name).Nodup) :
    seen.contains field.name = false := by
  rw [List.map_append, List.map_cons] at distinct
  rw [List.contains_eq_mem, decide_eq_false_iff_not]
  exact fun member => List.disjoint_of_nodup_append distinct (accounts.earlier _ member)
    List.mem_cons_self

theorem given (accounts : Accounts before seen) :
    Accounts (before ++ [field]) (field.name :: seen) := by
  constructor
  · intro name member
    rw [List.map_append, List.mem_append]
    rcases List.mem_cons.mp member with rfl | earlier
    · exact Or.inr List.mem_cons_self
    · exact Or.inl (accounts.earlier name earlier)
  · intro other member isRequired
    rcases List.mem_append.mp member with earlier | last
    · exact List.mem_cons_of_mem _ (accounts.complete other earlier isRequired)
    · rw [List.mem_singleton.mp last]
      exact List.mem_cons_self

theorem leftOut (accounts : Accounts before seen) (notRequired : field.isRequired ≠ true) :
    Accounts (before ++ [field]) seen := by
  constructor
  · intro name member
    rw [List.map_append, List.mem_append]
    exact Or.inl (accounts.earlier name member)
  · intro other member isRequired
    rcases List.mem_append.mp member with earlier | last
    · exact accounts.complete other earlier isRequired
    · rw [List.mem_singleton.mp last] at isRequired
      exact absurd isRequired notRequired

end Accounts

/-- The members that describe some fields are read as these fields. What was read before them are
fields that stand before them in the record, so no field is read twice. -/
theorem readMembers_of_describes (distinct : (fields.map RecordField.name).Nodup)
    {writtenFields : List WrittenField} {members : List (String × Json)}
    (describes : DescribesFields (fields.map RecordField.name) writtenFields members)
    {before rest : List (RecordField α)} {record result : α} (split : fields = before ++ rest)
    (reads : Reads depth rest writtenFields record result) (spells : SpellsMembers nodes members)
    (accounts : Accounts before seen) :
    ∃ later, readMembers fields depth nodes seen record = .ok (later, result) ∧
      Accounts fields later := by
  induction describes generalizing nodes seen before rest record with
  | nil =>
      cases reads
      cases spells
      rw [split, List.append_nil]
      exact ⟨seen, rfl, accounts⟩
  | @kept _ _ value _ variant _ ih =>
      cases reads with
      | @cons field rest _ _ _ next _ name given _ _ others =>
          cases spells with
          | @cons node _ nodes _ place behind _ first later =>
              have split' : fields = (before ++ [field]) ++ rest := by
                rw [split, List.append_assoc, List.singleton_append]
              have listed : field ∈ fields :=
                split ▸ List.mem_append_right before List.mem_cons_self
              have unseen : seen.contains field.name = false := accounts.unseen (split ▸ distinct)
              obtain ⟨change, read, rfl⟩ := given value variant node first
              rw [← name, readMembers_field (find?_field distinct listed) unseen read]
              exact ih split' others later accounts.given
  | leftOut absent _ ih =>
      cases reads with
      | @cons field rest _ _ _ next _ name _ supplied required others =>
          have split' : fields = (before ++ [field]) ++ rest := by
            rw [split, List.append_assoc, List.singleton_append]
          have notRequired : field.isRequired ≠ true := fun isRequired =>
            nomatch (required isRequired).symm.trans absent
          rw [← supplied absent]
          exact ih split' others spells (accounts.leftOut notRequired)
  | @added _ name _ _ unknown plain _ ih =>
      cases spells with
      | cons place behind _ first later =>
          have unnamed : (fields.find? fun field => field.name == name) = none := by
            rw [List.find?_eq_none]
            intro field listed same
            exact unknown (eq_of_beq same ▸ List.mem_map_of_mem listed)
          rw [readMembers_other unnamed (skip_of_spells first plain)]
          exact ih split reads later accounts

/-- A record is read from all documents that describe it. -/
theorem readRecord_of_describes {blank result : α} {writtenFields : List WrittenField}
    {document : Json} {node : Node} (distinct : (fields.map RecordField.name).Nodup)
    (reads : Reads depth fields writtenFields blank result)
    (describes : Describes writtenFields document) (spells : Spells node document) :
    readRecord fields blank (depth + 1) node = .ok result := by
  obtain ⟨members, rfl, describes⟩ := describes
  rw [reads.names_eq] at describes
  cases spells with
  | scalar place plain => exact plain.elim
  | object opening closing each =>
      have nothingRead : Accounts ([] : List (RecordField α)) [] :=
        ⟨List.forall_mem_nil _, List.forall_mem_nil _⟩
      obtain ⟨seen, readAll, accounts⟩ :=
        readMembers_of_describes distinct describes rfl reads each nothingRead
      have nothingMissing : (fields.any fun field =>
          field.isRequired && !seen.contains field.name) = false := by
        rw [List.any_eq_false]
        intro field listed missing
        rw [Bool.and_eq_true, Bool.not_eq_true', List.contains_eq_mem,
          decide_eq_false_iff_not] at missing
        exact missing.2 (accounts.complete field listed missing.1)
      unfold readRecord enter
      dsimp only
      rw [readAll]
      change (if (fields.any fun field => field.isRequired && !seen.contains field.name) = true
        then _ else _) = _
      rw [nothingMissing]
      rfl

/-! ### Optional values and lists -/

section Variants

variable {Variant : α → Json → Prop} {reader : Reader α} {document : Json} {node : Node}

theorem OptionVariant.read {option : Option α}
    (filled : ∀ value document, Variant value document → document ≠ .null)
    (read : ∀ value, option = some value → ∀ document, Variant value document →
      ∀ node, Spells node document → reader depth node = .ok value)
    (variant : OptionVariant Variant option document) (spells : Spells node document) :
    readOptional reader depth node = .ok option := by
  cases option with
  | none =>
      cases variant
      exact readOptional_null spells
  | some value =>
      exact readOptional_some spells (filled value document variant)
        (read value rfl document variant node spells)

theorem ListVariant.read {values : List α}
    (read : ∀ value ∈ values, ∀ document, Variant value document →
      ∀ node, Spells node document → reader depth node = .ok value)
    (variant : ListVariant Variant values document) (spells : Spells node document) :
    readList reader (depth + 1) node = .ok values := by
  obtain ⟨items, rfl, variants⟩ := variant
  refine readList_of_spells ?_ spells
  clear spells
  induction variants with
  | nil => exact .nil
  | cons variant _ ih =>
      rw [List.forall_mem_cons] at read
      exact .cons (read.1 _ variant) (ih read.2)

end Variants

end Reading

end Json
end BuildNotices
