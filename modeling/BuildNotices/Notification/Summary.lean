import BuildNotices.Notification.Basic
import BuildNotices.Run.Basic
import BuildNotices.Variables.Basic
/-!
Cards that sum up the test results of a run.

One of two builders is chosen by name: the one that sums up the test counts, or the
one that attaches nothing. The counts are taken from the variables. Every count
gives one attribute, and if there is any, a link to the report follows. The
identifier of a card is given from outside.
-/

namespace BuildNotices

open Text

inductive CardBuilder where
  | testSummary
  | nothing
deriving Repr, DecidableEq

namespace CardBuilder

def name : CardBuilder → String
  | .testSummary => "default"
  | .nothing => "noop"

/-- The builder with a name, in any ASCII case and with blanks around it. Any other
name, and no name, attaches nothing. -/
def named (name : Option String) : CardBuilder :=
  match name with
  | none => .nothing
  | some text => if lowerAscii (trimmed text) = testSummary.name then .testSummary else .nothing

end CardBuilder

namespace Card

def defaultIcon : String := "https://bit.ly/2ctIstd"

def count? (bindings : Variables) (name : ReservedName) : Option String :=
  (bindings.read? name).filter fun text => text ≠ ""

/-- The attribute of a count, with one style for zero and one for any other text. -/
def countAttribute (bindings : Variables) (name : ReservedName) (label : String)
    (zero other : AttributeStyle) : Option CardAttribute :=
  (count? bindings name).map fun text =>
    .styled label text (if text = "0" then zero else other)

def countAttributes (bindings : Variables) : List CardAttribute :=
  [ countAttribute bindings .successTestCount "Tests successful" .error .success,
    countAttribute bindings .failedTestCount "Tests failed" .success .error,
    countAttribute bindings .skippedTestCount "Tests skipped" .success .current,
    (count? bindings .testCount).map fun text => { label := "Tests total", value := text } ]
    |>.filterMap fun line => line

/-- Where the test report is: the variable for it, or the path below the address of the
run. -/
def reportUrl (run : Option Run) (bindings : Variables) : String :=
  (count? bindings .testReportUrl).getD
    (bindings.value ReservedName.url.text ++
      ((run.bind Run.tests).map TestSummary.reportPath).getD "testReport/")

def attributesFor (run : Option Run) (bindings : Variables) : List CardAttribute :=
  match countAttributes bindings with
  | [] => []
  | attributes => attributes ++ [.link "Test report" "here" (reportUrl run bindings)]

/-- The title of a card: the names of the job and of the run. It is a fixed template that names
both in triple braces, so nothing is escaped, and that is not strict, so a name that is not there
adds nothing and the title can always be computed. -/
def titleFor (bindings : Variables) : String :=
  bindings.value ReservedName.jobDisplayName.text ++ " - " ++
    bindings.value ReservedName.buildDisplayName.text

def iconFor (icon : Option String) : String :=
  (icon.filter fun text => !allBlank text).getD defaultIcon

end Card

def CardBuilder.build (builder : CardBuilder) (id : String) (run : Option Run)
    (bindings : Variables) (message : String) (icon : Option String) : Option Card :=
  match builder, Card.attributesFor run bindings with
  | .nothing, _ => none
  | .testSummary, [] => none
  | .testSummary, attributes =>
      some
        { style := "application"
          url := bindings.value ReservedName.url.text
          format := "medium"
          id := id
          title := Card.titleFor bindings
          icon := Card.iconFor icon
          attributes := attributes
          activityHtml := message }

end BuildNotices
