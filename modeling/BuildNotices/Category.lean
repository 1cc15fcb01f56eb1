import BuildNotices.Text.Blank
import BuildNotices.Text.Digits
/-!
Notification categories.

A category says what a notification is about: the start of a run, or one of six
ways in which a run can end. Only a start is told in the present tense, so only
its built-in message differs.
-/

namespace BuildNotices

open Text

inductive Category where
  | started
  | success
  | failure
  | unstable
  | aborted
  | notBuilt
  | backToNormal
deriving Repr, DecidableEq, Inhabited

namespace Category

def all : List Category :=
  [.started, .success, .failure, .unstable, .aborted, .notBuilt, .backToNormal]

def name : Category → String
  | .started => "STARTED"
  | .success => "SUCCESS"
  | .failure => "FAILURE"
  | .unstable => "UNSTABLE"
  | .aborted => "ABORTED"
  | .notBuilt => "NOT_BUILT"
  | .backToNormal => "BACK_TO_NORMAL"

def isStart : Category → Bool
  | .started => true
  | _ => false

def status : Category → String
  | .started => "Starting..."
  | .success => "Success"
  | .failure => "FAILURE"
  | .unstable => "Unstable"
  | .aborted => "Aborted"
  | .notBuilt => "Not built"
  | .backToNormal => "Back to normal"

/-- The category with a name in any ASCII case, with blanks around it and with
hyphens for underscores. -/
def parse? (text : String) : Option Category :=
  let wanted := (upperAscii (trimmed text)).map fun c => if c = '-' then '_' else c
  all.find? fun category => category.name == wanted

def unknownName (text : String) : String :=
  "unknown notification category '" ++ text ++ "'"

theorem mem_all (category : Category) : category ∈ all := by
  cases category <;> decide

end Category
end BuildNotices
