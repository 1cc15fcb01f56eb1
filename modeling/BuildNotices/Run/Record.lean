import BuildNotices.Json.Record
import BuildNotices.Run.Basic
/-!
Run records: histories as JSON documents.

Every field of a run may be left out and then has its default; of a test summary
only the total must be given. A history is written with all its fields, each run
holding the run before it under `previous`.
-/

namespace BuildNotices

open Json Text

/-! ### Reading -/

namespace Result

def read : Reader Result :=
  readChoice (all.map fun result => .plain result.name result)

end Result

namespace AffectedFiles

/-- Reads the count under `found`, or the bare word `unsupported`. -/
def read : Reader AffectedFiles :=
  readChoice
    [ { name := "found"
        bare := none
        payload := fun depth node => (readWord depth node).map found },
      .plain "unsupported" unsupported ]

end AffectedFiles

def Instant.read : Reader Instant :=
  readScalar fun value => value.text?.bind Instant.parse?

namespace Change

def fields : List (RecordField Change) :=
  [ .withDefault "author" (readOptional readText) fun author change => { change with author },
    .withDefault "message" readText fun message change => { change with message },
    .withDefault "commit_id" (readOptional readText) fun commitId change =>
      { change with commitId },
    .withDefault "affected_files" AffectedFiles.read fun affectedFiles change =>
      { change with affectedFiles } ]

def read : Reader Change :=
  readRecord fields {}

end Change

namespace TestSummary

def fields : List (RecordField TestSummary) :=
  [ .mandatory "total" readWord fun total tests => { tests with total },
    .withDefault "failed" readWord fun failed tests => { tests with failed },
    .withDefault "skipped" readWord fun skipped tests => { tests with skipped },
    .withDefault "url_name" readText fun reportPath tests => { tests with reportPath } ]

def read : Reader TestSummary :=
  readRecord fields { total := 0 }

end TestSummary

namespace History

def ofLatest {α : Type} (name : String) (read : Reader α) (put : α → Run → Run) :
    RecordField History :=
  .withDefault name read fun value history =>
    { history with latest := put value history.latest }

def fields (readPrevious : Reader History) : List (RecordField History) :=
  [ ofLatest "result" (readOptional Result.read) fun result run => { run with result },
    ofLatest "job_display_name" readText fun jobName run => { run with jobName },
    ofLatest "display_name" readText fun name run => { run with name },
    ofLatest "url" readText fun url run => { run with url },
    ofLatest "started_at" (readOptional Instant.read) fun startedAt run =>
      { run with startedAt },
    ofLatest "duration_ms" readWord fun duration run => { run with duration },
    ofLatest "cause" (readOptional readText) fun cause run => { run with cause },
    ofLatest "description" (readOptional readText) fun description run =>
      { run with description },
    ofLatest "changes" (readOptional (readList Change.read)) fun changes run =>
      { run with changes },
    ofLatest "tests" (readOptional TestSummary.read) fun tests run => { run with tests },
    ofLatest "build_variables" readTextMap fun buildVariables run =>
      { run with buildVariables },
    ofLatest "environment" readTextMap fun environment run => { run with environment },
    .withDefault "previous" (readOptional readPrevious) fun previous history =>
      { history with
        earlier := match previous with
          | none => []
          | some before => before.latest :: before.earlier } ]

/-- Reads a history. Each run opens one container, so the chain of runs is no longer
than the number of containers that may be opened. -/
def read : Reader History
  | 0 => fun node => readRecord (fields fun _ _ => .error .mismatch) ⟨{}, []⟩ 0 node
  | depth + 1 => fun node =>
      readRecord (fields fun _ node => read depth node) ⟨{}, []⟩ (depth + 1) node

def parse (text : String) : Except Problem History :=
  Json.parse read text

def ofJson? (value : Json) : Option History :=
  decode? read value

end History

/-! ### Writing -/

def ofWord (count : UInt64) : Json :=
  .integer count.toNat

def AffectedFiles.toJson : AffectedFiles → Json
  | .found count => .object [("found", ofWord count)]
  | .unsupported => .string "unsupported"

def Change.toJson (change : Change) : Json :=
  .object
    [ ("author", ofText? change.author),
      ("message", .string change.message),
      ("commit_id", ofText? change.commitId),
      ("affected_files", change.affectedFiles.toJson) ]

def TestSummary.toJson (tests : TestSummary) : Json :=
  .object
    [ ("total", ofWord tests.total),
      ("failed", ofWord tests.failed),
      ("skipped", ofWord tests.skipped),
      ("url_name", .string tests.reportPath) ]

def Run.toJson (run : Run) (previous : Json) : Json :=
  .object
    [ ("result", ofText? (run.result.map Result.name)),
      ("job_display_name", .string run.jobName),
      ("display_name", .string run.name),
      ("url", .string run.url),
      ("started_at", ofText? (run.startedAt.map Instant.text)),
      ("duration_ms", ofWord run.duration),
      ("cause", ofText? run.cause),
      ("description", ofText? run.description),
      ("changes", ofOption (fun changes => .array (changes.map Change.toJson)) run.changes),
      ("tests", ofOption TestSummary.toJson run.tests),
      ("build_variables", .textMap run.buildVariables),
      ("environment", .textMap run.environment),
      ("previous", previous) ]

namespace History

def earlierToJson : List Run → Json
  | [] => .null
  | run :: before => run.toJson (earlierToJson before)

def toJson (history : History) : Json :=
  history.latest.toJson (earlierToJson history.earlier)

end History
end BuildNotices
