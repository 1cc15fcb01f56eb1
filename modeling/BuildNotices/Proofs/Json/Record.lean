import BuildNotices.Json.Record
import BuildNotices.Proofs.Delivery.Request
/-!
Records read from JSON documents.

A reader of records starts from the defaults and changes them field by field. A condition that
every field keeps therefore holds of every record that is read, and a record whose members stand
in a document is read member by member.
-/

namespace BuildNotices
namespace Json

/-! ### Conditions that fields keep -/

section Conditions

variable {α : Type} {good : α → Prop}

/-- Reading the field changes a good record to a good one. -/
def RecordField.Keeps (field : RecordField α) (good : α → Prop) : Prop :=
  ∀ depth node change, field.read depth node = .ok change →
    ∀ record, good record → good (change record)

theorem RecordField.of_keeps {β : Type} {presence : Presence} {name : String} {read : Reader β}
    {put : β → α → α} {fits : β → Prop}
    (reads : ∀ depth node found, read depth node = .ok found → fits found)
    (puts : ∀ found record, fits found → good record → good (put found record)) :
    (RecordField.of presence name read put).Keeps good := by
  intro depth node change same record goodRecord
  change (read depth node).map put = .ok change at same
  cases result : read depth node with
  | error fault =>
      rw [result] at same
      cases same
  | ok found =>
      rw [result] at same
      cases same
      exact puts found record (reads depth node found result) goodRecord

theorem readMembers_keeps {fields : List (RecordField α)}
    (keeps : ∀ field ∈ fields, field.Keeps good) {depth : Nat} {members : List Node.Member}
    {seen later : List String} {record result : α} (goodRecord : good record)
    (read : readMembers fields depth members seen record = .ok (later, result)) : good result := by
  induction members generalizing seen record with
  | nil =>
      cases read
      exact goodRecord
  | cons member members ih =>
      obtain ⟨name, value, place⟩ := member
      obtain ⟨name, _, read⟩ := exists_of_bind_eq_ok read
      dsimp only at read
      split at read
      · obtain ⟨_, _, read⟩ := exists_of_bind_eq_ok read
        exact ih goodRecord read
      next field found =>
        split at read
        · cases read
        · obtain ⟨change, changed, read⟩ := exists_of_bind_eq_ok read
          have kept := keeps field (List.mem_of_find?_eq_some found) depth value change changed
          exact ih (kept record goodRecord) read

theorem readPositional_keeps {fields : List (RecordField α)}
    (keeps : ∀ field ∈ fields, field.Keeps good) {depth : Nat} {closing : Lexeme}
    {items : List Node} {record result : α} (goodRecord : good record)
    (read : readPositional depth closing fields items record = .ok result) : good result := by
  induction fields generalizing items record with
  | nil =>
      cases items with
      | nil =>
          obtain ⟨_, _, read⟩ := exists_of_bind_eq_ok read
          cases read
          exact goodRecord
      | cons extra items => cases read
  | cons field fields ih =>
      cases items with
      | nil =>
          obtain ⟨_, _, read⟩ := exists_of_bind_eq_ok read
          split at read
          · cases read
            exact goodRecord
          · cases read
      | cons item items =>
          obtain ⟨change, changed, read⟩ := exists_of_bind_eq_ok read
          have kept := keeps field List.mem_cons_self depth item change changed
          exact ih (fun other member => keeps other (List.mem_cons_of_mem field member))
            (kept record goodRecord) read

theorem readRecord_keeps {fields : List (RecordField α)}
    (keeps : ∀ field ∈ fields, field.Keeps good) {blank result : α} (goodBlank : good blank)
    {depth : Nat} {node : Node} (read : readRecord fields blank depth node = .ok result) :
    good result := by
  have entered {opening : Place} {inside : Nat → Except Fault α}
      (each : ∀ inner, inside inner = .ok result → good result)
      (read : enter depth opening inside = .ok result) : good result := by
    cases depth with
    | zero => cases read
    | succ inner => exact each inner read
  cases node with
  | leaf lexeme => cases read
  | array opening items closing =>
      exact entered (fun inner read => readPositional_keeps keeps goodBlank read) read
  | object opening members closing =>
      refine entered (fun inner read => ?_) read
      obtain ⟨⟨seen, record⟩, readAll, read⟩ := exists_of_bind_eq_ok read
      obtain ⟨_, _, read⟩ := exists_of_bind_eq_ok read
      split at read
      · cases read
      · cases read
        exact readMembers_keeps keeps goodBlank readAll

theorem exists_of_readScalar {accept : Json → Option α} {depth : Nat} {node : Node} {found : α}
    (read : readScalar accept depth node = .ok found) : ∃ value, accept value = some found := by
  unfold readScalar at read
  split at read
  · split at read
    next value _ =>
      split at read
      next result accepted =>
        cases read
        exact ⟨value, accepted⟩
      next => cases read
    · cases read
  · cases read

theorem readBelow_lt {bound depth found : Nat} {node : Node}
    (read : readBelow bound depth node = .ok found) : found < bound := by
  obtain ⟨value, accepted⟩ := exists_of_readScalar read
  split at accepted
  · split at accepted
    next inside =>
      cases accepted
      rw [Bool.and_eq_true, decide_eq_true_eq, decide_eq_true_eq] at inside
      omega
    next => cases accepted
  · cases accepted

end Conditions

/-! ### Members one after the other -/

section Members

variable {α : Type} {fields : List (RecordField α)} {depth : Nat} {seen : List String}
  {record : α} {name : String} {value : Json} {members : List (String × Json)}

/-- A member of a known field is read as the change of this field. -/
theorem readMembers_field {field : RecordField α} {node : Node} {nodes : List Node.Member}
    {place behind : Place} {change : α → α}
    (known : (fields.find? fun field => field.name == name) = some field)
    (fresh : seen.contains name = false) (read : field.read depth node = .ok change) :
    readMembers fields depth ((⟨place, .scalar (.string name) none⟩, node, behind) :: nodes) seen
        record =
      readMembers fields depth nodes (name :: seen) (change record) := by
  have named : Lexeme.name ⟨place, .scalar (.string name) none⟩ = pure name := rfl
  rw [readMembers, named, pure_bind, known]
  dsimp only
  rw [fresh, read]
  rfl

theorem readMembers_other {node : Node} {nodes : List Node.Member} {place behind : Place}
    (unknown : (fields.find? fun field => field.name == name) = none)
    (skipped : skip node = .ok ()) :
    readMembers fields depth ((⟨place, .scalar (.string name) none⟩, node, behind) :: nodes) seen
        record =
      readMembers fields depth nodes seen record := by
  have named : Lexeme.name ⟨place, .scalar (.string name) none⟩ = pure name := rfl
  rw [readMembers, named, pure_bind, unknown]
  dsimp only
  rw [skipped]
  rfl

theorem readMembers_known {β : Type} {presence : Presence} {reader : Reader β}
    {put : β → α → α} {found : β}
    (known : (fields.find? fun field => field.name == name) = some (.of presence name reader put))
    (fresh : seen.contains name = false) (read : reader depth (Node.ofJson value) = .ok found) :
    readMembers fields depth (Node.ofMembers ((name, value) :: members)) seen record =
      readMembers fields depth (Node.ofMembers members) (name :: seen) (put found record) :=
  readMembers_field known fresh (congrArg (Except.map put) read)

theorem readMembers_unknown (unknown : (fields.find? fun field => field.name == name) = none)
    (skipped : skip (Node.ofJson value) = .ok ()) :
    readMembers fields depth (Node.ofMembers ((name, value) :: members)) seen record =
      readMembers fields depth (Node.ofMembers members) seen record :=
  readMembers_other unknown skipped

/-- An object is read with one level of nesting less than a document may have. -/
theorem decode?_object {blank : α}
    (read : readMembers fields 126 (Node.ofMembers members) [] blank = .ok (seen, record))
    (complete : (fields.any fun field => field.isRequired && !seen.contains field.name) = false) :
    decode? (readRecord fields blank) (.object members) = some record := by
  have whole : readRecord fields blank nestingLimit (Node.ofJson (.object members)) =
      .ok record := by
    change (readMembers fields 126 (Node.ofMembers members) [] blank >>= _) = _
    rw [read]
    change (if (fields.any fun field => field.isRequired && !seen.contains field.name) = true
      then _ else _) = _
    rw [complete]
    rfl
  unfold decode?
  rw [whole]
  rfl

theorem readBelow_integer {bound number : Nat} (below : number < bound) :
    readBelow bound depth (Node.ofJson (.integer number)) = .ok number := by
  have inside : (decide (0 ≤ (number : Int)) && decide ((number : Int) < (bound : Int))) = true := by
    rw [Bool.and_eq_true, decide_eq_true_eq, decide_eq_true_eq]
    omega
  unfold readBelow readScalar Node.ofJson
  dsimp only
  rw [if_pos inside]
  rfl

end Members

end Json
end BuildNotices
