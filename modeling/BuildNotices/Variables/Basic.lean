import BuildNotices.Category
import BuildNotices.Text.Dictionary
/-!
Template variables.

Some names are reserved: only the library gives them a value, so that the
environment of a build cannot put words into a message or a card.
-/

namespace BuildNotices

open Text

abbrev Variables : Type := Dictionary String

/-- The names that only the library may set. -/
inductive ReservedName where
  | status
  | printFullEnv
  | duration
  | buildDuration
  | url
  | cause
  | jobDisplayName
  | projectDisplayName
  | blueOceanUrl
  | buildDisplayName
  | buildDescription
  | changes
  | changesOrCause
  | hipchatChanges
  | hipchatChangesOrCause
  | commitMessage
  | commitMessageText
  | testCount
  | failedTestCount
  | skippedTestCount
  | successTestCount
  | testReportUrl
deriving Repr, DecidableEq

namespace ReservedName

def text : ReservedName → String
  | .status => "STATUS"
  | .printFullEnv => "PRINT_FULL_ENV"
  | .duration => "DURATION"
  | .buildDuration => "BUILD_DURATION"
  | .url => "URL"
  | .cause => "CAUSE"
  | .jobDisplayName => "JOB_DISPLAY_NAME"
  | .projectDisplayName => "PROJECT_DISPLAY_NAME"
  | .blueOceanUrl => "BLUE_OCEAN_URL"
  | .buildDisplayName => "BUILD_DISPLAY_NAME"
  | .buildDescription => "BUILD_DESCRIPTION"
  | .changes => "CHANGES"
  | .changesOrCause => "CHANGES_OR_CAUSE"
  | .hipchatChanges => "HIPCHAT_CHANGES"
  | .hipchatChangesOrCause => "HIPCHAT_CHANGES_OR_CAUSE"
  | .commitMessage => "COMMIT_MESSAGE"
  | .commitMessageText => "COMMIT_MESSAGE_TEXT"
  | .testCount => "TEST_COUNT"
  | .failedTestCount => "FAILED_TEST_COUNT"
  | .skippedTestCount => "SKIPPED_TEST_COUNT"
  | .successTestCount => "SUCCESS_TEST_COUNT"
  | .testReportUrl => "TEST_REPORT_URL"

def all : List ReservedName :=
  [.status, .printFullEnv, .duration, .buildDuration, .url, .cause, .jobDisplayName,
    .projectDisplayName, .blueOceanUrl, .buildDisplayName, .buildDescription, .changes,
    .changesOrCause, .hipchatChanges, .hipchatChangesOrCause, .commitMessage,
    .commitMessageText, .testCount, .failedTestCount, .skippedTestCount,
    .successTestCount, .testReportUrl]

theorem mem_all (name : ReservedName) : name ∈ all := by
  cases name <;> decide

end ReservedName

def isReserved (name : String) : Bool :=
  ReservedName.all.any fun reserved => reserved.text == name

namespace Variables

def read? (bindings : Variables) (name : ReservedName) : Option String :=
  bindings.get? name.text

def value (bindings : Variables) (name : String) : String :=
  (bindings.get? name).getD ""

def listing (bindings : Variables) : String :=
  "\x7b" ++ ", ".intercalate (bindings.entries.map fun entry => entry.1 ++ "=" ++ entry.2) ++
    "\x7d"

/-- Adds the two variables that depend on the category: its status, and the listing
of all variables with that status among them. -/
def forCategory (bindings : Variables) (category : Category) : Variables :=
  let withStatus : Variables := bindings.insert ReservedName.status.text category.status
  withStatus.insert ReservedName.printFullEnv.text (listing withStatus)

end Variables
end BuildNotices
