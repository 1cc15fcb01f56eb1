import BuildNotices.Category
import BuildNotices.Error
import BuildNotices.Run.Basic
/-!
The category of a finished run.

Only a success looks back: it is an ordinary success after a success, and back to
normal after anything else. Runs that built nothing, because they were aborted or
not built, do not count as what came before.
-/

namespace BuildNotices

def Result.builtNothing : Result → Bool
  | .aborted => true
  | .notBuilt => true
  | _ => false

/-- Whether a run may stand between a success and the result it is compared with. -/
def Run.isPassedOver (run : Run) : Bool :=
  run.result.any Result.builtNothing

/-- The result of the nearest earlier run that built something; none when there is no
such run, or when it is still in progress. -/
def History.previousResult (history : History) : Option Result :=
  ((history.earlier.find? fun run => !run.isPassedOver).map Run.result).join

def classify (previous : Option Result) (current : Result) : Except NoticeError Category :=
  match current with
  | .aborted => .ok .aborted
  | .failure => .ok .failure
  | .notBuilt => .ok .notBuilt
  | .unstable => .ok .unstable
  | .success => .ok (if previous = some .success then .success else .backToNormal)
  | .unknown => .error (.unclassifiable Result.unknown.name)

def History.classify (history : History) : Except NoticeError Category :=
  match history.latest.result with
  | none => .error (.unclassifiable "in progress")
  | some current => BuildNotices.classify history.previousResult current

end BuildNotices
