import BuildNotices.Proofs.Json.Compact
import BuildNotices.Proofs.Run.Description
/-!
Run records read back.

Main statement: a history is read back from its run record and from every other document that
describes it, given as a value or as a text.
-/

namespace BuildNotices

open Json Text

/-! ### Records are legible -/

theorem isLegible_ofWord (count : UInt64) : (ofWord count).IsLegible := by
  have small := count.toNat_lt
  exact .integer ⟨by omega, Int.ofNat_lt.mpr small⟩

theorem isLegible_ofOption {α : Type} {write : α → Json} {option : Option α}
    (each : ∀ value, option = some value → (write value).IsLegible) :
    (ofOption write option).IsLegible := by
  cases option with
  | none => exact .null
  | some value => exact each value rfl

theorem isLegible_ofText? (text : Option String) : (ofText? text).IsLegible :=
  isLegible_ofOption fun text _ => .string text

theorem isLegible_textMap (entries : Dictionary String) : (Json.textMap entries).IsLegible := by
  refine .object fun member listed => ?_
  obtain ⟨entry, _, rfl⟩ := List.mem_map.mp listed
  exact .string entry.2

theorem AffectedFiles.isLegible_toJson (files : AffectedFiles) : files.toJson.IsLegible := by
  cases files with
  | found count => exact .member (isLegible_ofWord count) .noMembers
  | unsupported => exact .string _

theorem Change.isLegible_toJson (change : Change) : change.toJson.IsLegible :=
  .member (isLegible_ofText? _) <| .member (.string _) <| .member (isLegible_ofText? _) <|
    .member change.affectedFiles.isLegible_toJson .noMembers

theorem TestSummary.isLegible_toJson (tests : TestSummary) : tests.toJson.IsLegible :=
  .member (isLegible_ofWord _) <| .member (isLegible_ofWord _) <| .member (isLegible_ofWord _) <|
    .member (.string _) .noMembers

theorem Run.isLegible_toJson (run : Run) {previous : Json} (legible : previous.IsLegible) :
    (run.toJson previous).IsLegible := by
  have changes : (ofOption (fun changes => .array (changes.map Change.toJson))
      run.changes).IsLegible := by
    refine isLegible_ofOption fun changes _ => .array fun item listed => ?_
    obtain ⟨change, _, rfl⟩ := List.mem_map.mp listed
    exact change.isLegible_toJson
  have tests : (ofOption TestSummary.toJson run.tests).IsLegible :=
    isLegible_ofOption fun tests _ => tests.isLegible_toJson
  exact .member (isLegible_ofText? _) <| .member (.string _) <| .member (.string _) <|
    .member (.string _) <| .member (isLegible_ofText? _) <| .member (isLegible_ofWord _) <|
    .member (isLegible_ofText? _) <| .member (isLegible_ofText? _) <| .member changes <|
    .member tests <| .member (isLegible_textMap _) <| .member (isLegible_textMap _) <|
    .member legible .noMembers

theorem History.isLegible_toJson (history : History) : history.toJson.IsLegible := by
  have earlier (runs : List Run) : (earlierToJson runs).IsLegible := by
    induction runs with
    | nil => exact .null
    | cons run before ih => exact run.isLegible_toJson ih
  exact history.latest.isLegible_toJson (earlier history.earlier)

/-! ### The round trip -/

/-- A history is read back from its run record, and from each document that leaves out fields with
their defaults or adds unknown ones. The record must not be nested deeper than documents may be, and
the starts must be instants that texts can name. -/
theorem run_records_are_read_back (history : History)
    (readable : ∀ run ∈ history.latest :: history.earlier, run.StartIsReadable)
    (shallow : history.toJson.nesting ≤ nestingLimit) :
    History.parse history.toJson.compact = .ok history ∧
      ∀ document, history.IsDescribedBy document →
        History.ofJson? document = some history ∧
          (∀ text, IsTextOf text document → History.parse text = .ok history) ∧
          (document.IsLegible → History.parse document.compact = .ok history) := by
  have read {document : Json} (describes : history.IsDescribedBy document) (node : Node)
      (spells : Spells node document) : History.read nestingLimit node = .ok history :=
    History.read_of_isDescribedBy readable shallow describes spells
  have parsed {document : Json} (describes : history.IsDescribedBy document) {text : String}
      (isText : IsTextOf text document) : History.parse text = .ok history :=
    parse_of_isTextOf isText (read describes)
  constructor
  · exact parsed history.isDescribedBy_toJson history.isLegible_toJson.isTextOf_compact
  · intro document describes
    exact ⟨decode?_of_spells (read describes), fun text => parsed describes,
      fun legible => parsed describes legible.isTextOf_compact⟩

/-- A run that failed some tests in a leap second, after a run that passed them. -/
def unstableHistory : History :=
  { latest :=
      { result := some .unstable
        jobName := "app"
        name := "#12"
        startedAt := some ⟨1483228799, 1500000000⟩
        duration := 90500
        changes := some
          [ { author := some "kim", message := "Fix \"it\"\n", affectedFiles := .unsupported },
            {} ]
        tests := some { total := 12, failed := 1 }
        buildVariables := .ofList [("BRANCH", "main")] }
    earlier := [{ result := some .success, tests := some { total := 12 } }] }

/-- A record of this history without most of its defaults, with members of its own. -/
def sparseRecord : Json :=
  .object
    [ ("result", .string "UNSTABLE"),
      ("agent", .decimal "0.5"),
      ("job_display_name", .string "app"),
      ("display_name", .string "#12"),
      ("started_at", .string "2016-12-31T23:59:60.500Z"),
      ("duration_ms", .integer 90500),
      ("changes", .array
        [ .object
            [ ("author", .string "kim"),
              ("message", .string "Fix \"it\"\n"),
              ("affected_files", .string "unsupported") ],
          .object [("reviewed", .boolean true), ("affected_files", .object [("found", .integer 0)])]
        ]),
      ("tests", .object [("total", .integer 12), ("failed", .integer 1), ("flaky", .null)]),
      ("build_variables", .object [("BRANCH", .string "main")]),
      ("previous", .object
        [ ("result", .string "SUCCESS"),
          ("tests", .object [("total", .integer 12), ("url_name", .string "testReport/")]) ]) ]

theorem isLegible_half : (Json.decimal "0.5").IsLegible := by
  have half : "0.5" = String.ofList (Numeral.chars ⟨false, ['0'], some ['5'], none⟩) := rfl
  have digits : IsNumeric ['0'] ∧ IsNumeric ['5'] :=
    ⟨⟨rfl, List.forall_mem_singleton.mpr rfl⟩, ⟨rfl, List.forall_mem_singleton.mpr rfl⟩⟩
  rw [half]
  refine .decimal ⟨digits.1, Or.inl rfl, ?_, nofun⟩ (Numeral.isInRange_of_small rfl (by decide)) rfl
  rintro _ ⟨⟩
  exact digits.2

theorem isLegible_sparseRecord : sparseRecord.IsLegible := by
  have changes : (Json.array
      [ .object
          [ ("author", .string "kim"),
            ("message", .string "Fix \"it\"\n"),
            ("affected_files", .string "unsupported") ],
        .object [("reviewed", .boolean true), ("affected_files", .object [("found", .integer 0)])]
      ]).IsLegible :=
    .item (.member (.string _) <| .member (.string _) <| .member (.string _) .noMembers) <|
      .item (.member (.boolean true) <|
        .member (.member (.integer (by decide)) .noMembers) .noMembers) .noItems
  have tests : (Json.object
      [("total", .integer 12), ("failed", .integer 1), ("flaky", .null)]).IsLegible :=
    .member (.integer (by decide)) <| .member (.integer (by decide)) <| .member .null .noMembers
  have previous : (Json.object
      [ ("result", .string "SUCCESS"),
        ("tests", .object [("total", .integer 12), ("url_name", .string "testReport/")])
      ]).IsLegible :=
    .member (.string _) <|
      .member (.member (.integer (by decide)) <| .member (.string _) .noMembers) .noMembers
  exact .member (.string _) <| .member isLegible_half <| .member (.string _) <|
    .member (.string _) <| .member (.string _) <| .member (.integer (by decide)) <|
    .member changes <| .member tests <| .member (.member (.string _) .noMembers) <|
    .member previous .noMembers

theorem sparseRecord_describes : unstableHistory.IsDescribedBy sparseRecord := by
  have failed : Change.IsDescribedBy
      { author := some "kim", message := "Fix \"it\"\n", affectedFiles := .unsupported }
      (.object
        [ ("author", .string "kim"),
          ("message", .string "Fix \"it\"\n"),
          ("affected_files", .string "unsupported") ]) :=
    ⟨_, rfl, .kept rfl <| .kept rfl <| .leftOut rfl <| .kept rfl .nil⟩
  have blank : Change.IsDescribedBy {}
      (.object
        [("reviewed", .boolean true), ("affected_files", .object [("found", .integer 0)])]) :=
    ⟨_, rfl, .added (by decide) trivial <| .leftOut rfl <| .leftOut rfl <| .leftOut rfl <|
      .kept rfl .nil⟩
  have tests : TestSummary.IsDescribedBy { total := 12, failed := 1 }
      (.object [("total", .integer 12), ("failed", .integer 1), ("flaky", .null)]) :=
    ⟨_, rfl, .kept rfl <| .kept rfl <| .leftOut rfl <| .leftOut rfl <|
      .added (by decide) trivial .nil⟩
  have earlierTests : TestSummary.IsDescribedBy { total := 12 }
      (.object [("total", .integer 12), ("url_name", .string "testReport/")]) :=
    ⟨_, rfl, .kept rfl <| .leftOut rfl <| .leftOut rfl <| .kept rfl .nil⟩
  have previous : History.EarlierVariant
      [{ result := some .success, tests := some { total := 12 } }]
      (.object
        [ ("result", .string "SUCCESS"),
          ("tests", .object [("total", .integer 12), ("url_name", .string "testReport/")]) ]) :=
    ⟨_, rfl, .kept rfl <| .leftOut rfl <| .leftOut rfl <| .leftOut rfl <| .leftOut rfl <|
      .leftOut rfl <| .leftOut rfl <| .leftOut rfl <| .leftOut rfl <| .kept earlierTests <|
      .leftOut rfl <| .leftOut rfl <| .leftOut rfl .nil⟩
  exact ⟨_, rfl, .kept rfl <| .added (by decide) trivial <| .kept rfl <| .kept rfl <|
    .leftOut rfl <| .kept rfl <| .kept rfl <| .leftOut rfl <| .leftOut rfl <|
    .kept ⟨_, rfl, .cons failed <| .cons blank .nil⟩ <| .kept tests <| .kept rfl <|
    .leftOut rfl <| .kept previous .nil⟩

theorem sparse_run_record_is_read_back :
    (∀ run ∈ unstableHistory.latest :: unstableHistory.earlier, run.StartIsReadable) ∧
      unstableHistory.toJson.nesting ≤ nestingLimit ∧
      unstableHistory.IsDescribedBy sparseRecord ∧
      History.parse sparseRecord.compact = .ok unstableHistory := by
  have readable :
      ∀ run ∈ unstableHistory.latest :: unstableHistory.earlier, run.StartIsReadable := by
    rw [List.forall_mem_cons]
    constructor
    · rintro start ⟨⟩
      exact ⟨by decide, Or.inr ⟨by decide, by decide⟩⟩
    · rintro run listed start known
      cases List.mem_singleton.mp listed
      cases known
  have shallow : unstableHistory.toJson.nesting ≤ nestingLimit := by decide
  obtain ⟨_, described⟩ := run_records_are_read_back unstableHistory readable shallow
  exact ⟨readable, shallow, sparseRecord_describes,
    (described sparseRecord sparseRecord_describes).2.2 isLegible_sparseRecord⟩

end BuildNotices
