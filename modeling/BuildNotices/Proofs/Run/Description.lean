import BuildNotices.Proofs.Json.Description
import BuildNotices.Proofs.Time.Instant
import BuildNotices.Run.Record
/-!
Run records that are written with some of their fields.

The documents of a history are those that a run record may be changed to without telling another
history: each run, each change and each test summary in it may leave out the fields that hold their
default, and may have unknown members with scalar values.
-/

namespace BuildNotices

open Json Text

/-! ### Changes -/

namespace Change

def writtenFields (change : Change) : List WrittenField :=
  [ .plain "author" (ofText? change.author) .null,
    .plain "message" (.string change.message) (.string ""),
    .plain "commit_id" (ofText? change.commitId) .null,
    .plain "affected_files" change.affectedFiles.toJson (.object [("found", .integer 0)]) ]

/-- A document that may stand for a change in a run record. -/
def IsDescribedBy (change : Change) (document : Json) : Prop :=
  Describes change.writtenFields document

theorem isDescribedBy_toJson (change : Change) : change.IsDescribedBy change.toJson := by
  apply describes_fullDocument
  simp only [writtenFields, List.forall_mem_cons]
  exact ⟨rfl, rfl, rfl, rfl, List.forall_mem_nil _⟩

end Change

/-! ### Test summaries -/

namespace TestSummary

def writtenFields (tests : TestSummary) : List WrittenField :=
  [ .mandatory "total" (ofWord tests.total),
    .plain "failed" (ofWord tests.failed) (.integer 0),
    .plain "skipped" (ofWord tests.skipped) (.integer 0),
    .plain "url_name" (.string tests.reportPath) (.string "testReport/") ]

def IsDescribedBy (tests : TestSummary) (document : Json) : Prop :=
  Describes tests.writtenFields document

theorem isDescribedBy_toJson (tests : TestSummary) : tests.IsDescribedBy tests.toJson := by
  apply describes_fullDocument
  simp only [writtenFields, List.forall_mem_cons]
  exact ⟨rfl, rfl, rfl, rfl, List.forall_mem_nil _⟩

end TestSummary

/-! ### Histories -/

def Run.writtenFields (run : Run) (previous : Json) (Previous : Json → Prop) :
    List WrittenField :=
  [ .plain "result" (ofText? (run.result.map Result.name)) .null,
    .plain "job_display_name" (.string run.jobName) (.string ""),
    .plain "display_name" (.string run.name) (.string ""),
    .plain "url" (.string run.url) (.string ""),
    .plain "started_at" (ofText? (run.startedAt.map Instant.text)) .null,
    .plain "duration_ms" (ofWord run.duration) (.integer 0),
    .plain "cause" (ofText? run.cause) .null,
    .plain "description" (ofText? run.description) .null,
    .nested "changes" (ofOption (fun changes => .array (changes.map Change.toJson)) run.changes)
      .null (OptionVariant (ListVariant Change.IsDescribedBy) run.changes),
    .nested "tests" (ofOption TestSummary.toJson run.tests) .null
      (OptionVariant TestSummary.IsDescribedBy run.tests),
    .plain "build_variables" (.textMap run.buildVariables) (.object []),
    .plain "environment" (.textMap run.environment) (.object []),
    .nested "previous" previous .null Previous ]

theorem Run.describes_toJson (run : Run) {previous : Json} {Previous : Json → Prop}
    (variant : Previous previous) :
    Describes (run.writtenFields previous Previous) (run.toJson previous) := by
  have changes : OptionVariant (ListVariant Change.IsDescribedBy) run.changes
      (ofOption (fun changes => .array (changes.map Change.toJson)) run.changes) :=
    optionVariant_ofOption fun _ _ => listVariant_map fun change _ => change.isDescribedBy_toJson
  have tests : OptionVariant TestSummary.IsDescribedBy run.tests
      (ofOption TestSummary.toJson run.tests) :=
    optionVariant_ofOption fun tests _ => tests.isDescribedBy_toJson
  apply describes_fullDocument
  simp only [writtenFields, List.forall_mem_cons]
  exact ⟨rfl, rfl, rfl, rfl, rfl, rfl, rfl, rfl, changes, tests, rfl, rfl, variant,
    List.forall_mem_nil _⟩

namespace History

def EarlierVariant : List Run → Json → Prop
  | [], document => document = .null
  | run :: before, document =>
      Describes (run.writtenFields (earlierToJson before) (EarlierVariant before)) document

def writtenFields (history : History) : List WrittenField :=
  history.latest.writtenFields (earlierToJson history.earlier) (EarlierVariant history.earlier)

/-- A document that may be the run record of a history. -/
def IsDescribedBy (history : History) (document : Json) : Prop :=
  Describes history.writtenFields document

theorem earlierVariant_earlierToJson (earlier : List Run) :
    EarlierVariant earlier (earlierToJson earlier) := by
  induction earlier with
  | nil => rfl
  | cons run before ih => exact run.describes_toJson ih

/-- The full document of a history is one of those that describe it. -/
theorem isDescribedBy_toJson (history : History) : history.IsDescribedBy history.toJson :=
  history.latest.describes_toJson (earlierVariant_earlierToJson history.earlier)

end History

/-! ### Values that are supplied -/

section Supplied

variable {α : Type}

theorem none_of_null {write : α → Json} (filled : ∀ value, write value ≠ .null)
    {option : Option α} (same : .null = ofOption write option) : option = none := by
  cases option with
  | none => rfl
  | some value => exact absurd same.symm (filled value)

theorem none_of_null_text {text : Option String} (same : .null = ofText? text) : text = none :=
  none_of_null (fun _ => Json.noConfusion) same

theorem none_of_null_map {write : α → String} {option : Option α}
    (same : .null = ofText? (option.map write)) : option = none :=
  Option.map_eq_none_iff.mp (none_of_null_text same)

theorem zero_of_integer {count : UInt64} (same : .integer 0 = ofWord count) : count = 0 := by
  have value : (0 : Int) = count.toNat := Json.integer.inj same
  exact UInt64.toNat_inj.mp (Int.ofNat.inj value).symm

theorem empty_of_object {entries : Dictionary String} (same : .object [] = Json.textMap entries) :
    entries = .empty := by
  have nothing : entries.entries = [] := List.map_eq_nil_iff.mp (Json.object.inj same).symm
  exact Dictionary.eq_empty_of_isEmpty (List.isEmpty_iff.mpr nothing)

end Supplied

namespace AffectedFiles

theorem eq_found_zero {files : AffectedFiles}
    (same : .object [("found", .integer 0)] = files.toJson) : files = .found 0 := by
  cases files with
  | unsupported => cases same
  | found count =>
      have value : Json.integer 0 = ofWord count := by
        injection same with members
        injection members with first
        injection first
      rw [zero_of_integer value]

theorem read_of_spells {files : AffectedFiles} {depth : Nat} {node : Node}
    (shallow : files.toJson.nesting ≤ depth) (spells : Spells node files.toJson) :
    read depth node = .ok files := by
  cases files with
  | unsupported => exact readChoice_of_name rfl spells
  | found count =>
      cases depth with
      | zero => cases shallow
      | succ depth =>
          refine readChoice_of_payload rfl (fun node first => ?_) spells
          exact congrArg (Except.map found) (readWord_of_spells first)

end AffectedFiles

/-! ### Reading descriptions -/

namespace Change

theorem reads {change : Change} {depth : Nat} (shallow : change.toJson.nesting ≤ depth + 1) :
    Reads depth fields change.writtenFields {} change := by
  have files : change.affectedFiles.toJson.nesting ≤ depth :=
    @nesting_le_of_member _ "affected_files" _ _ shallow (by simp)
  exact
    .plain (fun _ => readOptional_ofText?) (fun same => by rw [none_of_null_text same]) <|
    .plain (fun _ => readText_of_spells) (fun same => by rw [← Json.string.inj same]) <|
    .plain (fun _ => readOptional_ofText?) (fun same => by rw [none_of_null_text same]) <|
    .plain (fun _ => AffectedFiles.read_of_spells files)
      (fun same => by rw [AffectedFiles.eq_found_zero same]) <|
    .nil _

theorem read_of_isDescribedBy {change : Change} {depth : Nat} {document : Json} {node : Node}
    (shallow : change.toJson.nesting ≤ depth) (describes : change.IsDescribedBy document)
    (spells : Spells node document) : read depth node = .ok change := by
  cases depth with
  | zero => cases shallow
  | succ depth => exact readRecord_of_describes (by decide) (reads shallow) describes spells

end Change

namespace TestSummary

theorem reads (tests : TestSummary) (depth : Nat) :
    Reads depth fields tests.writtenFields { total := 0 } tests :=
  .mandatory (fun _ => readWord_of_spells) <|
  .plain (fun _ => readWord_of_spells) (fun same => by rw [zero_of_integer same]) <|
  .plain (fun _ => readWord_of_spells) (fun same => by rw [zero_of_integer same]) <|
  .plain (fun _ => readText_of_spells) (fun same => by rw [← Json.string.inj same]) <|
  .nil _

theorem read_of_isDescribedBy {tests : TestSummary} {depth : Nat} {document : Json} {node : Node}
    (shallow : tests.toJson.nesting ≤ depth) (describes : tests.IsDescribedBy document)
    (spells : Spells node document) : read depth node = .ok tests := by
  cases depth with
  | zero => cases shallow
  | succ depth => exact readRecord_of_describes (by decide) (tests.reads depth) describes spells

end TestSummary

theorem Result.read_of_spells {result : Result} {depth : Nat} {node : Node}
    (spells : Spells node (.string result.name)) : Result.read depth node = .ok result := by
  have named : ((Result.all.map fun result => Alternative.plain result.name result).find?
      (·.name == result.name)).bind Alternative.bare = some result := by
    cases result <;> rfl
  exact readChoice_of_name named spells

theorem Instant.read_of_spells {instant : Instant} {depth : Nat} {node : Node}
    (readable : instant.IsReadable) (spells : Spells node (.string instant.text)) :
    Instant.read depth node = .ok instant := by
  have accepted : (Json.text? (.string instant.text)).bind Instant.parse? = some instant := by
    rw [Json.text?, Option.bind_some, parse?_text readable]
  exact readScalar_of_spells spells trivial accepted

/-- The start of the run is an instant that a text can name. -/
def Run.StartIsReadable (run : Run) : Prop :=
  ∀ start, run.startedAt = some start → start.IsReadable

section Run

variable {run : Run} {previous : Json} {depth : Nat} {document : Json} {node : Node}

theorem changes_read (shallow : (run.toJson previous).nesting ≤ depth + 1)
    (variant : OptionVariant (ListVariant Change.IsDescribedBy) run.changes document)
    (spells : Spells node document) :
    readOptional (readList Change.read) depth node = .ok run.changes := by
  have within : (ofOption (fun changes => .array (changes.map Change.toJson))
      run.changes).nesting ≤ depth :=
    @nesting_le_of_member _ "changes" _ _ shallow (by simp)
  refine variant.read ?_ ?_ spells
  · rintro changes _ ⟨items, rfl, _⟩
    exact Json.noConfusion
  · intro changes isChanges document variant node spells
    rw [isChanges] at within
    cases depth with
    | zero => cases within
    | succ depth =>
        refine variant.read (fun change listed document describes node spells => ?_) spells
        have shallow : change.toJson.nesting ≤ depth :=
          nesting_le_of_item within (List.mem_map_of_mem listed)
        exact Change.read_of_isDescribedBy shallow describes spells

theorem tests_read (shallow : (run.toJson previous).nesting ≤ depth + 1)
    (variant : OptionVariant TestSummary.IsDescribedBy run.tests document)
    (spells : Spells node document) :
    readOptional TestSummary.read depth node = .ok run.tests := by
  have within : (ofOption TestSummary.toJson run.tests).nesting ≤ depth :=
    @nesting_le_of_member _ "tests" _ _ shallow (by simp)
  refine variant.read ?_ ?_ spells
  · rintro tests _ ⟨members, rfl, _⟩
    exact Json.noConfusion
  · intro tests isTests document describes node spells
    rw [isTests] at within
    exact TestSummary.read_of_isDescribedBy within describes spells

theorem Run.reads {Previous : Json → Prop} {earlier : List Run} {readPrevious : Reader History}
    (readable : run.StartIsReadable) (shallow : (run.toJson previous).nesting ≤ depth + 1)
    (readEarlier : ∀ document, Previous document → ∀ node, Spells node document →
      readOptional readPrevious depth node = .ok (History.previous? ⟨run, earlier⟩))
    (supplied : .null = previous → earlier = []) :
    Reads depth (History.fields readPrevious) (run.writtenFields previous Previous)
      ⟨{}, []⟩ ⟨run, earlier⟩ := by
  have buildVariables : (Json.textMap run.buildVariables).nesting ≤ depth :=
    @nesting_le_of_member _ "build_variables" _ _ shallow (by simp)
  have environment : (Json.textMap run.environment).nesting ≤ depth :=
    @nesting_le_of_member _ "environment" _ _ shallow (by simp)
  cases depth with
  | zero => cases buildVariables
  | succ depth =>
      refine .plain (fun _ => readOptional_ofText?_map fun _ _ _ => Result.read_of_spells)
        (fun same => by rw [none_of_null_map same]) ?_
      refine .plain (fun _ => readText_of_spells) (fun same => by rw [← Json.string.inj same]) ?_
      refine .plain (fun _ => readText_of_spells) (fun same => by rw [← Json.string.inj same]) ?_
      refine .plain (fun _ => readText_of_spells) (fun same => by rw [← Json.string.inj same]) ?_
      refine .plain (fun _ => readOptional_ofText?_map fun start known _ =>
        Instant.read_of_spells (readable start known))
        (fun same => by rw [none_of_null_map same]) ?_
      refine .plain (fun _ => readWord_of_spells) (fun same => by rw [zero_of_integer same]) ?_
      refine .plain (fun _ => readOptional_ofText?) (fun same => by rw [none_of_null_text same]) ?_
      refine .plain (fun _ => readOptional_ofText?) (fun same => by rw [none_of_null_text same]) ?_
      refine .nested (fun _ variant _ => changes_read shallow variant)
        (fun same => by rw [none_of_null (fun _ => Json.noConfusion) same]) ?_
      refine .nested (fun _ variant _ => tests_read shallow variant)
        (fun same => by rw [none_of_null (fun _ => Json.noConfusion) same]) ?_
      refine .plain (fun _ => readTextMap_of_spells) (fun same => by rw [empty_of_object same]) ?_
      refine .plain (fun _ => readTextMap_of_spells) (fun same => by rw [empty_of_object same]) ?_
      cases earlier with
      | nil => exact .nested readEarlier (fun _ => rfl) (.nil _)
      | cons => exact .nested readEarlier (fun same => nomatch supplied same) (.nil _)

end Run

namespace History

theorem names_nodup (readPrevious : Reader History) :
    ((fields readPrevious).map RecordField.name).Nodup := by
  have names : (fields readPrevious).map RecordField.name =
      (fields fun _ _ => .error .mismatch).map RecordField.name := rfl
  rw [names]
  decide

theorem read_of_isDescribedBy {latest : Run} {earlier : List Run} {depth : Nat} {document : Json}
    {node : Node} (readable : ∀ run ∈ latest :: earlier, run.StartIsReadable)
    (shallow : (toJson ⟨latest, earlier⟩).nesting ≤ depth)
    (describes : IsDescribedBy ⟨latest, earlier⟩ document) (spells : Spells node document) :
    read depth node = .ok ⟨latest, earlier⟩ := by
  induction earlier generalizing latest depth document node with
  | nil =>
      cases depth with
      | zero => cases shallow
      | succ depth =>
          refine readRecord_of_describes (names_nodup _)
            (Run.reads (readable latest List.mem_cons_self) shallow ?_ (fun _ => rfl))
            describes spells
          rintro _ rfl node spells
          exact readOptional_null spells
  | cons run before ih =>
      cases depth with
      | zero => cases shallow
      | succ depth =>
          have within : (toJson ⟨run, before⟩).nesting ≤ depth :=
            @nesting_le_of_member _ "previous" _ _ shallow (by simp [toJson, earlierToJson])
          rw [List.forall_mem_cons] at readable
          refine readRecord_of_describes (names_nodup _)
            (Run.reads readable.1 shallow ?_ nofun) describes spells
          rintro document ⟨members, rfl, describes⟩ node spells
          exact readOptional_some spells Json.noConfusion
            (ih readable.2 within ⟨members, rfl, describes⟩ spells)

end History

end BuildNotices
