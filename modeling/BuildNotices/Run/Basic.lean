import BuildNotices.Text.Dictionary
import BuildNotices.Time.Instant
/-!
Runs of a build job.

A run is what the build server knows about one build. A history is a run together
with the runs of the same job before it, the latest first.
-/

namespace BuildNotices

open Text

inductive Result where
  | success
  | failure
  | unstable
  | aborted
  | notBuilt
  | unknown
deriving Repr, DecidableEq, Inhabited

namespace Result

def all : List Result :=
  [.success, .failure, .unstable, .aborted, .notBuilt, .unknown]

def name : Result → String
  | .success => "SUCCESS"
  | .failure => "FAILURE"
  | .unstable => "UNSTABLE"
  | .aborted => "ABORTED"
  | .notBuilt => "NOT_BUILT"
  | .unknown => "UNKNOWN"

end Result

/-- What the source control knows about the files of a change: how many it touched,
or nothing, because it cannot list them. -/
inductive AffectedFiles where
  | found (count : UInt64)
  | unsupported
deriving Repr, DecidableEq

instance : Inhabited AffectedFiles := ⟨.found 0⟩

structure Change where
  author : Option String := none
  message : String := ""
  commitId : Option String := none
  affectedFiles : AffectedFiles := .found 0
deriving Repr, DecidableEq, Inhabited

structure TestSummary where
  total : UInt64
  failed : UInt64 := 0
  skipped : UInt64 := 0
  /-- The path of the report, relative to the address of the run. -/
  reportPath : String := "testReport/"
deriving Repr, DecidableEq, Inhabited

/-- The sum of two 64-bit counts, held at the largest count when it is greater. -/
def saturatingAdd (left right : UInt64) : UInt64 :=
  if left + right < left then 0xFFFFFFFFFFFFFFFF else left + right

def saturatingSub (left right : UInt64) : UInt64 :=
  if left < right then 0 else left - right

def TestSummary.passed (tests : TestSummary) : UInt64 :=
  saturatingSub tests.total (saturatingAdd tests.failed tests.skipped)

structure Run where
  /-- The outcome; none while the run is in progress. -/
  result : Option Result := none
  jobName : String := ""
  name : String := ""
  /-- The address of the run, absolute or relative to the build server. -/
  url : String := ""
  startedAt : Option Instant := none
  /-- The length of the run in milliseconds, zero while it is in progress. -/
  duration : UInt64 := 0
  cause : Option String := none
  description : Option String := none
  /-- The change set; none when nothing is known about changes. -/
  changes : Option (List Change) := none
  tests : Option TestSummary := none
  buildVariables : Dictionary String := .empty
  environment : Dictionary String := .empty
deriving Repr, DecidableEq

instance : Inhabited Run := ⟨{}⟩

def Run.isBuilding (run : Run) : Bool :=
  run.result.isNone

/-- A run and the runs of its job before it, the latest first. -/
structure History where
  latest : Run
  earlier : List Run := []
deriving Repr, DecidableEq, Inhabited

def History.previous? (history : History) : Option History :=
  match history.earlier with
  | [] => none
  | run :: before => some ⟨run, before⟩

def History.append (before : Option History) (run : Run) : History :=
  match before with
  | none => ⟨run, []⟩
  | some history => ⟨run, history.latest :: history.earlier⟩

/-- The histories of a job at each of its runs, from the runs oldest first. -/
def History.ofRuns? (runs : List Run) : Option History :=
  runs.foldl (fun before run => some (.append before run)) none

end BuildNotices
