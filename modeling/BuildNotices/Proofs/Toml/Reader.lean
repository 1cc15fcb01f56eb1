import BuildNotices.Proofs.Text.Dictionary
import BuildNotices.Proofs.Toml.Bounded
import BuildNotices.Toml.Reader
/-!
Records read from TOML values.

A condition that every field of a record keeps holds of every record that is read. A record whose
entries stand in a table is read field by field: a field is given or keeps its default.
-/

namespace BuildNotices
namespace Toml

open Text

/-! ### Conditions that fields keep -/

section Conditions

variable {α : Type} {good : α → Prop}

/-- Reading the field from a bounded value changes a good record to a good one. -/
def RecordField.Keeps (field : RecordField α) (good : α → Prop) : Prop :=
  ∀ value, value.Bounded →
    Ensures (field.read value) fun change => ∀ record, good record → good (change record)

theorem RecordField.withDefault_keeps {β : Type} {name : String} {read : Reader β}
    {put : β → α → α} {fits : β → Prop}
    (reads : ∀ value, value.Bounded → Ensures (read value) fits)
    (puts : ∀ found record, fits found → good record → good (put found record)) :
    (RecordField.withDefault name read put).Keeps good :=
  fun value bounded => Ensures.map (reads value bounded) fun found fits record goodRecord =>
    puts found record fits goodRecord

/-- A field that the condition is not about. -/
theorem RecordField.withDefault_ignored {β : Type} {name : String} {read : Reader β}
    {put : β → α → α} (puts : ∀ found record, good record → good (put found record)) :
    (RecordField.withDefault name read put).Keeps good :=
  withDefault_keeps (fun _ _ => Ensures.trivial) fun found record _ => puts found record

theorem readNamed_keeps {fields : List (RecordField α)}
    (keeps : ∀ field ∈ fields, field.Keeps good) {entries : Entries}
    (bounded : ∀ entry ∈ entries, entry.2.Bounded) {record : α} (goodRecord : good record) :
    Ensures (readNamed entries fields record) good := by
  induction fields generalizing record with
  | nil => exact Ensures.some goodRecord
  | cons field fields ih =>
      have others := fun other member => keeps other (List.mem_cons_of_mem field member)
      unfold readNamed
      split
      · split
        · exact Ensures.none
        · exact ih others goodRecord
      next name value found =>
        have valueBounded := bounded _ (List.mem_of_find?_eq_some found)
        refine Ensures.bind (keeps field List.mem_cons_self value valueBounded) ?_
        intro change kept
        exact ih others (kept record goodRecord)

theorem readPositional_keeps {fields : List (RecordField α)}
    (keeps : ∀ field ∈ fields, field.Keeps good) {items : List Value}
    (bounded : ∀ item ∈ items, item.Bounded) {record : α} (goodRecord : good record) :
    Ensures (readPositional fields items record) good := by
  induction fields generalizing items record with
  | nil => exact Ensures.some goodRecord
  | cons field fields ih =>
      have others := fun other member => keeps other (List.mem_cons_of_mem field member)
      cases items with
      | nil =>
          unfold readPositional
          split
          · exact Ensures.none
          · exact Ensures.some goodRecord
      | cons item items =>
          have itemBounded := bounded item List.mem_cons_self
          refine Ensures.bind (keeps field List.mem_cons_self item itemBounded) ?_
          intro change kept
          exact ih others (fun other member => bounded other (List.mem_cons_of_mem item member))
            (kept record goodRecord)

theorem entries?_bounded {value : Value} (bounded : value.Bounded) :
    Ensures value.entries? fun entries => ∀ entry ∈ entries, entry.2.Bounded := by
  cases bounded with
  | table each => exact Ensures.some each
  | datetime text =>
      apply Ensures.some
      intro entry member
      cases List.mem_singleton.mp member
      exact .string text
  | string | integer | float | boolean | array => exact Ensures.none

theorem readRecord_keeps {fields : List (RecordField α)}
    (keeps : ∀ field ∈ fields, field.Keeps good) {value : Value} (bounded : value.Bounded)
    {blank : α} (goodBlank : good blank) : Ensures (readRecord fields blank value) good := by
  have named : Ensures (value.entries?.bind fun entries => readNamed entries fields blank) good :=
    Ensures.bind (entries?_bounded bounded) fun entries each =>
      readNamed_keeps keeps each goodBlank
  cases bounded with
  | array each => exact readPositional_keeps keeps each goodBlank
  | string | integer | float | boolean | datetime | table => exact named

end Conditions

/-! ### Natural numbers and names -/

theorem fits64_natural {value : Nat} :
    fits64 value = some (value : Int) ↔ value < 0x8000000000000000 := by
  unfold fits64
  constructor
  · intro fits
    split at fits
    next inside =>
      simp only [Bool.and_eq_true, decide_eq_true_eq] at inside
      omega
    next => cases fits
  · intro small
    apply if_pos
    simp only [Bool.and_eq_true, decide_eq_true_eq]
    omega

theorem readNatural_fits {value : Value} (bounded : value.Bounded) :
    Ensures (readNatural value) fun found => found < 0x8000000000000000 := by
  cases bounded with
  | @integer value fits =>
      unfold readNatural
      dsimp only
      split
      next natural =>
        apply Ensures.some
        apply fits64_natural.mp
        rwa [Int.toNat_of_nonneg natural]
      next => exact Ensures.none
  | string | float | boolean | datetime | array | table => exact Ensures.none

theorem readChoice_name {α : Type} {all : List α} {name : α → String} {choice : α}
    (listed : choice ∈ all)
    (distinct : ∀ first ∈ all, ∀ second ∈ all, name first = name second → first = second) :
    readChoice (all.map fun choice => (name choice, choice)) (.string (name choice)) =
      some choice := by
  change ((all.map fun choice => (name choice, choice)).find? fun other =>
    other.1 == name choice).map Prod.snd = some choice
  rw [List.find?_map, Option.map_map]
  change (all.find? fun other => name other == name choice).map (fun choice => choice) = _
  rw [find?_name listed distinct]
  rfl

/-! ### Fields one after the other -/

section Records

variable {α β : Type} {entries : Entries} {fields : List (RecordField α)} {record : α}
  {name : String} {reader : Reader β} {put : β → α → α} {value : Value} {found : β}

theorem readNamed_found {field : RecordField α} {change : α → α}
    (given : (entries.find? fun entry => entry.1 == field.name) = some (name, value))
    (read : field.read value = some change) :
    readNamed entries (field :: fields) record = readNamed entries fields (change record) := by
  rw [readNamed, given]
  dsimp only
  rw [read]
  rfl

theorem readNamed_mandatory
    (given : (entries.find? fun entry => entry.1 == name) = some (name, value))
    (read : reader value = some found) :
    readNamed entries (.mandatory name reader put :: fields) record =
      readNamed entries fields (put found record) :=
  readNamed_found given (congrArg (Option.map put) read)

theorem readNamed_given
    (given : (entries.find? fun entry => entry.1 == name) = some (name, value))
    (read : reader value = some found) :
    readNamed entries (.withDefault name reader put :: fields) record =
      readNamed entries fields (put found record) :=
  readNamed_found given (congrArg (Option.map put) read)

theorem readNamed_missing (missing : (entries.find? fun entry => entry.1 == name) = none) :
    readNamed entries (.withDefault name reader put :: fields) record =
      readNamed entries fields record := by
  have absent : (entries.find? fun entry =>
      entry.1 == (RecordField.withDefault name reader put).name) = none := missing
  rw [readNamed, absent]
  rfl

end Records

end Toml
end BuildNotices
