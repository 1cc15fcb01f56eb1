import BuildNotices.Text.Blank
import BuildNotices.Text.Html
import BuildNotices.Variables.Basic
import BuildNotices.Variables.Changes
/-!
The variables of a run.

Build variables come first, the environment of the build replaces them, and
reserved names are taken from neither. What the library itself knows about the run
is put in last. Lengths of time of a run in progress depend on the clock, which is
given.
-/

namespace BuildNotices

open Text

/-- The address of a run. A relative one is joined to the address of the build server,
with one slash between them, when that is known and not blank. -/
def absoluteUrl (server : Option String) (url : String) : String :=
  if hasSchemeMark url then
    url
  else
    match server with
    | none => url
    | some base =>
        if allBlank base then url
        else withoutFinalSlashes base ++ "/" ++ withoutInitialSlashes url

namespace Run

/-- The time since a run began; a run without start has just begun. -/
def elapsed (run : Run) (now : Instant) : TimeSpan :=
  now.elapsedSince (run.startedAt.getD now)

def durationText (run : Run) (now : Instant) : String :=
  if run.isBuilding then
    (run.elapsed now).text ++ " and counting"
  else
    (TimeSpan.ofMilliseconds run.duration.toNat).text

def buildDurationText (run : Run) (now : Instant) : String :=
  if run.duration = 0 then
    (run.elapsed now).text
  else
    (TimeSpan.ofMilliseconds run.duration.toNat).text

def testVariables (run : Run) (url : String) : List (ReservedName × String) :=
  match run.tests with
  | none => []
  | some tests =>
      [ (.testCount, toString tests.total.toNat),
        (.failedTestCount, toString tests.failed.toNat),
        (.skippedTestCount, toString tests.skipped.toNat),
        (.successTestCount, toString tests.passed.toNat),
        (.testReportUrl, url ++ tests.reportPath) ]

def changeVariables (run : Run) : List (ReservedName × String) :=
  let cause := run.cause.getD ""
  match run.changeReport with
  | .absent =>
      [ (.changes, noChanges),
        (.changesOrCause, cause),
        (.hipchatChanges, noChanges),
        (.hipchatChangesOrCause, cause),
        (.commitMessage, ""),
        (.commitMessageText, "") ]
  | .incomplete summary =>
      [ (.changesOrCause, cause),
        (.hipchatChanges, summary),
        (.hipchatChangesOrCause, summary) ]
  | .complete summary commitMessage =>
      [ (.changes, summary.getD noChanges),
        (.hipchatChanges, summary.getD noChanges),
        (.changesOrCause, summary.getD cause),
        (.hipchatChangesOrCause, summary.getD cause),
        (.commitMessage, Html.escape commitMessage),
        (.commitMessageText, commitMessage) ]

def ownVariables (run : Run) (server : Option String) (now : Instant) :
    List (ReservedName × String) :=
  let url := absoluteUrl server run.url
  run.testVariables url ++
    [ (.duration, run.durationText now),
      (.buildDuration, run.buildDurationText now),
      (.blueOceanUrl, url),
      (.url, url),
      (.cause, run.cause.getD ""),
      (.jobDisplayName, run.jobName),
      (.projectDisplayName, run.jobName),
      (.buildDisplayName, run.name),
      (.buildDescription, run.description.getD "") ] ++
    run.changeVariables

/-- What the build itself contributes: its variables, and over them its environment. -/
def givenVariables (run : Run) : List (String × String) :=
  (run.buildVariables.entries ++ run.environment.entries).filter fun entry =>
    !isReserved entry.1

def allVariables (run : Run) (server : Option String) (now : Instant) : Variables :=
  (Dictionary.ofList run.givenVariables).merge
    ((run.ownVariables server now).map fun entry => (entry.1.text, entry.2))

end Run
end BuildNotices
