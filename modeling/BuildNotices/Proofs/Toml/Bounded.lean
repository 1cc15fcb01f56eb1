import BuildNotices.Proofs.Toml.Document
/-!
Integers of documents that are read.

A number is read only when it fits 64 bits with sign. No reader makes up another integer, so
every integer of a document fits, however deep it stands in arrays and tables.
-/

namespace BuildNotices

/-! ### What a result ensures -/

def Ensures {α : Type} (result : Option α) (post : α → Prop) : Prop :=
  ∀ found, result = some found → post found

namespace Ensures

variable {α β : Type} {result : Option α} {post : α → Prop} {next : β → Prop}

theorem none : Ensures none post := by
  rintro found ⟨⟩

theorem some {value : α} (holds : post value) : Ensures (some value) post := by
  rintro found ⟨⟩
  exact holds

theorem bind {continuation : α → Option β} (first : Ensures result post)
    (later : ∀ found, post found → Ensures (continuation found) next) :
    Ensures (result >>= continuation) next := by
  cases result with
  | none => exact none
  | some found => exact later found (first found rfl)

theorem map {change : α → β} (first : Ensures result post)
    (later : ∀ found, post found → next (change found)) : Ensures (result.map change) next := by
  cases result with
  | none => exact none
  | some found => exact some (later found (first found rfl))

theorem orElse {other : Unit → Option α} (first : Ensures result post)
    (second : Ensures (other ()) post) : Ensures (result.orElse other) post := by
  cases result with
  | none => exact second
  | some found => exact some (first found rfl)

theorem trivial : Ensures result fun _ => True :=
  fun _ _ => True.intro

end Ensures

namespace Toml

/-! ### Bounded values -/

inductive Value.Bounded : Value → Prop where
  | string (text : String) : Bounded (.string text)
  | integer {value : Int} (fits : fits64 value = some value) : Bounded (.integer value)
  | float (literal : String) : Bounded (.float literal)
  | boolean (value : Bool) : Bounded (.boolean value)
  | datetime (text : String) : Bounded (.datetime text)
  | array {items : List Value} (each : ∀ item ∈ items, Bounded item) : Bounded (.array items)
  | table {entries : Entries} (each : ∀ entry ∈ entries, Bounded entry.2) : Bounded (.table entries)

inductive Entry.Bounded : Entry → Prop where
  | value {value : Value} (bounded : value.Bounded) : Bounded (.value value)
  | table {origin : Origin} {entries : Level} (each : ∀ entry ∈ entries, Bounded entry.2) :
      Bounded (.table origin entries)
  | tables {earlier : List Level} {last : Level}
      (eachEarlier : ∀ level ∈ earlier, ∀ entry ∈ level, Bounded entry.2)
      (eachLast : ∀ entry ∈ last, Bounded entry.2) : Bounded (.tables earlier last)

def LevelBounded (level : Level) : Prop :=
  ∀ entry ∈ level, entry.2.Bounded

/-! ### Numbers -/

theorem fits64_fits (value : Int) :
    Ensures (fits64 value) fun found => fits64 found = some found := by
  intro found same
  have kept := same
  unfold fits64 at kept
  split at kept
  next =>
    cases kept
    exact same
  next => cases kept

theorem basedInteger_bounded (base : Nat) (chars : List Char) :
    Ensures (basedInteger base chars) fun result => result.1.Bounded := by
  refine Ensures.bind Ensures.trivial ?_
  rintro ⟨digits, rest⟩ -
  refine Ensures.bind (fits64_fits _) ?_
  intro value fits
  exact Ensures.some (.integer fits)

theorem decimal_bounded (chars : List Char) :
    Ensures (decimal chars) fun result => result.1.Bounded := by
  have float (accepted : Bool) (literal : String) (rest : List Char) :
      Ensures (do guard accepted; return (Value.float literal, rest))
        fun result => result.1.Bounded :=
    Ensures.bind Ensures.trivial fun _ _ => Ensures.some (.float literal)
  unfold decimal
  refine Ensures.bind Ensures.trivial ?_
  rintro ⟨whole, rest⟩ -
  dsimp only
  split
  next point =>
    refine Ensures.bind Ensures.trivial ?_
    rintro ⟨fraction, rest⟩ -
    dsimp only
    split
    · exact float _ _ _
    · exact float _ _ _
  next =>
    split
    · exact float _ _ _
    · refine Ensures.bind (fits64_fits _) ?_
      intro value fits
      exact Ensures.some (.integer fits)

theorem specialFloat_bounded (chars : List Char) :
    Ensures (specialFloat chars) fun result => result.1.Bounded := by
  unfold specialFloat
  split
  · exact Ensures.some (.float _)
  · exact Ensures.some (.float _)
  · exact Ensures.none

theorem datetime_bounded (chars : List Char) :
    Ensures (datetime chars) fun result => result.1.Bounded := by
  unfold datetime
  split
  · exact Ensures.map Ensures.trivial fun found _ => .datetime found.1
  · dsimp only
    split
    · exact Ensures.some (.datetime _)
    · exact Ensures.some (.datetime _)

theorem number_bounded (chars : List Char) :
    Ensures (number chars) fun result => result.1.Bounded := by
  unfold number
  refine Ensures.orElse (datetime_bounded chars) ?_
  split
  · exact basedInteger_bounded 16 _
  · exact basedInteger_bounded 8 _
  · exact basedInteger_bounded 2 _
  · exact Ensures.orElse (decimal_bounded chars) (specialFloat_bounded chars)

theorem word_bounded (text : String) {value : Value} (bounded : value.Bounded) (chars : List Char) :
    Ensures (word text value chars) fun result => result.1.Bounded := by
  unfold word
  split
  · exact Ensures.some bounded
  · exact Ensures.none

theorem plainValue_bounded (chars : List Char) :
    Ensures (value.plainValue chars) fun result => result.1.Bounded := by
  unfold value.plainValue
  split
  · exact Ensures.none
  · split
    · exact Ensures.map Ensures.trivial fun found _ => .string found.1
    · split
      · exact word_bounded "true" (.boolean true) _
      · split
        · exact word_bounded "false" (.boolean false) _
        · exact number_bounded _

/-! ### Entries -/

section Levels

variable {change : Option Entry → Option Entry}

/-- A change of an entry that makes up no integer. -/
def Keeps (change : Option Entry → Option Entry) : Prop :=
  ∀ present : Option Entry, (∀ entry, present = some entry → entry.Bounded) →
    Ensures (change present) Entry.Bounded

theorem alter_bounded (keeps : Keeps change) (name : String) {level : Level}
    (bounded : LevelBounded level) : Ensures (alter name change level) LevelBounded := by
  induction level with
  | nil =>
      refine Ensures.map (keeps none (by rintro entry ⟨⟩)) ?_
      rintro later laterBounded entry member
      cases List.mem_singleton.mp member
      exact laterBounded
  | cons present level ih =>
      obtain ⟨before, entry⟩ := present
      have entryBounded : entry.Bounded := bounded (before, entry) List.mem_cons_self
      have restBounded : LevelBounded level :=
        fun other member => bounded other (List.mem_cons_of_mem _ member)
      unfold alter
      split
      next =>
        refine Ensures.map (keeps (some entry) (by rintro other ⟨⟩; exact entryBounded)) ?_
        intro later laterBounded other member
        rcases List.mem_cons.mp member with rfl | member
        · exact laterBounded
        · exact restBounded other member
      next =>
        refine Ensures.map (ih restBounded) ?_
        intro later laterBounded other member
        rcases List.mem_cons.mp member with rfl | member
        · exact entryBounded
        · exact laterBounded other member

/-- A change of a whole level that makes up no integer. -/
def KeepsLevel (change : Origin → Level → Option Level) : Prop :=
  ∀ origin level, LevelBounded level → Ensures (change origin level) LevelBounded

theorem levelBounded_nil : LevelBounded [] := by
  rintro entry ⟨⟩

theorem updateAt_keeps (way : Way) {change : Origin → Level → Option Level}
    (keeps : KeepsLevel change) (path : List String) : KeepsLevel (updateAt way change path) := by
  induction path with
  | nil => exact keeps
  | cons name path ih =>
      intro origin level bounded
      apply alter_bounded _ name bounded
      intro present presentBounded
      cases present with
      | none => exact Ensures.map (ih _ [] levelBounded_nil) fun _ each => .table each
      | some entry =>
          cases presentBounded entry rfl with
          | value => exact Ensures.none
          | table each =>
              dsimp only
              split
              · exact Ensures.map (ih _ _ each) fun _ each => .table each
              · exact Ensures.none
          | tables eachEarlier eachLast =>
              exact Ensures.map (ih _ _ eachLast) fun _ each => .tables eachEarlier each

theorem assign_bounded (path : List String) {value : Value} (valueBounded : value.Bounded)
    {level : Level} (bounded : LevelBounded level) :
    Ensures (assign path value level) LevelBounded := by
  have put (name : String) : ∀ level, LevelBounded level →
      Ensures (put name value level) LevelBounded := by
    intro level bounded
    apply alter_bounded _ name bounded
    intro present _
    cases present with
    | none => exact Ensures.some (.value valueBounded)
    | some entry => exact Ensures.none
  unfold assign
  split
  · exact Ensures.none
  · apply updateAt_keeps _ _ _ _ _ bounded
    intro origin level bounded
    dsimp only
    split
    · exact put _ level bounded
    · exact Ensures.none

theorem openTable_bounded (name : String) {level : Level} (bounded : LevelBounded level) :
    Ensures (openTable name level) LevelBounded := by
  apply alter_bounded _ name bounded
  intro present presentBounded
  cases present with
  | none => exact Ensures.some (.table levelBounded_nil)
  | some entry =>
      cases presentBounded entry rfl with
      | value => exact Ensures.none
      | @table origin entries each =>
          cases origin with
          | header => exact Ensures.none
          | implied => exact Ensures.some (.table each)
          | dotted => exact Ensures.none
      | tables => exact Ensures.none

theorem openElement_bounded (name : String) {level : Level} (bounded : LevelBounded level) :
    Ensures (openElement name level) LevelBounded := by
  apply alter_bounded _ name bounded
  intro present presentBounded
  cases present with
  | none =>
      refine Ensures.some (.tables ?_ levelBounded_nil)
      rintro level ⟨⟩
  | some entry =>
      cases presentBounded entry rfl with
      | value => exact Ensures.none
      | table => exact Ensures.none
      | tables eachEarlier eachLast =>
          refine Ensures.some (.tables ?_ levelBounded_nil)
          intro level member
          rcases List.mem_cons.mp member with rfl | member
          · exact eachLast
          · exact eachEarlier level member

theorem underHeader_bounded {change : String → Level → Option Level}
    (keeps : ∀ name level, LevelBounded level → Ensures (change name level) LevelBounded)
    (path : List String) {root : Level} (bounded : LevelBounded root) :
    Ensures (underHeader change path root) LevelBounded := by
  unfold underHeader
  split
  · exact Ensures.none
  · exact updateAt_keeps .header (fun _ level => keeps _ level) _ _ _ bounded

end Levels

/-! ### Finished documents -/

theorem mem_tablesOf {earlier : List Level} {later : List Value} {table : Value}
    (member : table ∈ tablesOf earlier later) :
    table ∈ later ∨ ∃ level ∈ earlier, table = .table (entriesOf level) := by
  induction earlier generalizing later with
  | nil => exact Or.inl member
  | cons level earlier ih =>
      rcases ih member with member | ⟨other, member, same⟩
      · rcases List.mem_cons.mp member with same | member
        · exact Or.inr ⟨level, List.mem_cons_self, same⟩
        · exact Or.inl member
      · exact Or.inr ⟨other, List.mem_cons_of_mem level member, same⟩

theorem table_bounded {level : Level} (each : ∀ entry ∈ level, entry.2.toValue.Bounded) :
    (Value.table (entriesOf level)).Bounded := by
  constructor
  intro entry member
  rw [entriesOf_eq_map] at member
  obtain ⟨origin, among, rfl⟩ := List.mem_map.mp member
  exact each origin among

theorem Entry.toValue_bounded {entry : Entry} (bounded : entry.Bounded) : entry.toValue.Bounded := by
  induction bounded with
  | value bounded => exact bounded
  | table _ each => exact table_bounded each
  | tables _ _ eachEarlier eachLast =>
      constructor
      intro item member
      rcases mem_tablesOf member with last | ⟨level, among, rfl⟩
      · cases List.mem_singleton.mp last
        exact table_bounded eachLast
      · exact table_bounded (eachEarlier level among)

theorem levelTable_bounded {level : Level} (bounded : LevelBounded level) :
    (Value.table (entriesOf level)).Bounded :=
  table_bounded fun entry member => Entry.toValue_bounded (bounded entry member)

/-! ### Values and lines -/

section Values

variable {read : Part Value}

/-- A reader of values that makes up no integer. -/
def ReadsBounded (read : Part Value) : Prop :=
  ∀ chars, Ensures (read chars) fun result => result.1.Bounded

theorem arrayItems_bounded (bounded : ReadsBounded read) (bound : Nat) (chars : List Char) :
    Ensures (arrayItems read bound chars) fun result => ∀ item ∈ result.1, item.Bounded := by
  induction bound generalizing chars with
  | zero => exact Ensures.none
  | succ bound ih =>
      unfold arrayItems
      split
      · apply Ensures.some
        rintro item ⟨⟩
      · refine Ensures.bind (bounded _) ?_
        rintro ⟨item, rest⟩ itemBounded
        dsimp only
        split
        · refine Ensures.bind (ih _) ?_
          rintro ⟨items, rest⟩ each
          apply Ensures.some
          intro other member
          rcases List.mem_cons.mp member with rfl | member
          · exact itemBounded
          · exact each other member
        · apply Ensures.some
          intro other member
          cases List.mem_singleton.mp member
          exact itemBounded
        · exact Ensures.none

theorem keyValue_bounded (bounded : ReadsBounded read) (chars : List Char) :
    Ensures (keyValue read chars) fun result => result.1.2.Bounded := by
  refine Ensures.bind Ensures.trivial ?_
  rintro ⟨path, rest⟩ -
  dsimp only
  split
  · refine Ensures.bind (bounded _) ?_
    rintro ⟨value, rest⟩ valueBounded
    exact Ensures.some valueBounded
  · exact Ensures.none

theorem inlineEntries_bounded (bounded : ReadsBounded read) (bound : Nat) {level : Level}
    (levelBounded : LevelBounded level) (chars : List Char) :
    Ensures (inlineEntries read bound level chars) fun result => LevelBounded result.1 := by
  induction bound generalizing level chars with
  | zero => exact Ensures.none
  | succ bound ih =>
      unfold inlineEntries
      refine Ensures.bind (keyValue_bounded bounded chars) ?_
      rintro ⟨⟨path, value⟩, rest⟩ valueBounded
      refine Ensures.bind (assign_bounded path valueBounded levelBounded) ?_
      intro later laterBounded
      split
      · exact ih laterBounded _
      · exact Ensures.some laterBounded
      · exact Ensures.none

end Values

theorem value_bounded (depth : Nat) : ReadsBounded (value depth) := by
  induction depth with
  | zero => exact plainValue_bounded
  | succ depth ih =>
      intro chars
      unfold value
      split
      · exact Ensures.map (arrayItems_bounded ih _ _) fun _ each => .array each
      · split
        · apply Ensures.some
          constructor
          rintro entry ⟨⟩
        · exact Ensures.map (inlineEntries_bounded ih _ levelBounded_nil _) fun _ bounded =>
            levelTable_bounded bounded
      · exact plainValue_bounded chars

theorem statement_bounded {document : Document} (bounded : LevelBounded document.root)
    (chars : List Char) :
    Ensures (statement document chars) fun result => LevelBounded result.1.root := by
  have opened (path : List String) :
      Ensures (document.openTable path) fun later => LevelBounded later.root :=
    Ensures.map (underHeader_bounded (fun name _ => openTable_bounded name) path bounded)
      fun _ rootBounded => rootBounded
  have element (path : List String) :
      Ensures (document.openElement path) fun later => LevelBounded later.root :=
    Ensures.map (underHeader_bounded (fun name _ => openElement_bounded name) path bounded)
      fun _ rootBounded => rootBounded
  unfold statement
  split
  · refine Ensures.bind Ensures.trivial ?_
    rintro ⟨path, rest⟩ -
    exact Ensures.bind (element path) fun later laterBounded => Ensures.some laterBounded
  · refine Ensures.bind Ensures.trivial ?_
    rintro ⟨path, rest⟩ -
    exact Ensures.bind (opened path) fun later laterBounded => Ensures.some laterBounded
  · refine Ensures.bind (keyValue_bounded (value_bounded nestingLimit) chars) ?_
    rintro ⟨⟨path, value⟩, rest⟩ valueBounded
    have assigned : Ensures (document.assign path value) fun later => LevelBounded later.root :=
      Ensures.map (updateAt_keeps .header (fun _ _ => assign_bounded path valueBounded) _ _ _ bounded)
        fun _ rootBounded => rootBounded
    exact Ensures.bind assigned fun later laterBounded => Ensures.some laterBounded

theorem statements_bounded (bound : Nat) {document : Document}
    (bounded : LevelBounded document.root) (chars : List Char) :
    Ensures (statements bound document chars) fun later => LevelBounded later.root := by
  induction bound generalizing document chars with
  | zero =>
      cases chars with
      | nil => exact Ensures.some bounded
      | cons c rest => exact Ensures.none
  | succ bound ih =>
      cases chars with
      | nil => exact Ensures.some bounded
      | cons c rest =>
          rw [statements]
          · have finish (later : Document) (laterBounded : LevelBounded later.root)
                (behind : List Char) :
                Ensures (do let rest ← finishLine behind; statements bound later rest)
                  fun later => LevelBounded later.root :=
              Ensures.bind Ensures.trivial fun rest _ => ih laterBounded rest
            split
            · exact finish document bounded _
            · refine Ensures.bind (statement_bounded bounded _) ?_
              rintro ⟨later, behind⟩ laterBounded
              exact finish later laterBounded behind
          · exact List.cons_ne_nil c rest

/-- Every integer of a document that is read fits 64 bits with sign. -/
theorem parse?_bounded (text : String) :
    Ensures (parse? text) fun entries => ∀ entry ∈ entries, entry.2.Bounded := by
  refine Ensures.map (statements_bounded _ levelBounded_nil _) ?_
  intro document bounded
  cases levelTable_bounded bounded with
  | table each => exact each

end Toml
end BuildNotices
