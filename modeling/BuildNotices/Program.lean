import BuildNotices.CommandLine.Invocation
import BuildNotices.Config.Files
import BuildNotices.Notifier.AdHoc
import BuildNotices.Notifier.Event
import BuildNotices.Run.Record
/-!
The program.

A run of the program is a function of what it finds around it: its words, the files, the
clock, and the server. It ends with an exit code, with what it has printed, and with a
report when something went wrong.
-/

namespace BuildNotices

open CommandLine

structure Surroundings where
  files : Files
  /-- The current directory. -/
  directory : String
  /-- The home directory of the user. -/
  home : Option String
  /-- The token that the environment holds. -/
  token : Option String
  moment : Moment
  server : Server

/-- Why the program fails: its words ask for nothing that it can do, or the attempt ends
with a report. -/
inductive Failure where
  | usage (refusal : Refusal)
  | report (text : String)
deriving Repr, DecidableEq

structure Outcome where
  requests : List Request := []
  output : String := ""
  failure : Option Failure := none
deriving Repr, Inhabited

namespace Outcome

def failed (text : String) : Outcome :=
  { failure := some (.report text) }

def printed (text : String) : Outcome :=
  { output := text }

def exitCode (outcome : Outcome) : UInt8 :=
  match outcome.failure with
  | none => 0
  | some (.report _) => 1
  | some (.usage _) => 2

end Outcome

namespace Program

def loadRun (files : Files) (path : String) : Except String History :=
  match (files.look path).text? with
  | none => .error ("Failed to read run file " ++ path)
  | some text =>
      (History.parse text).mapError fun _ => "Failed to parse run file " ++ path

def setUp (config : Config) : Except String Notifier :=
  (Notifier.ofConfig config).mapError fun _ => "Failed to set up the notification pipeline"

def deliveryReport : Option (List String) → String
  | none => "Nothing sent\n"
  | some [] => "No rooms configured, nothing sent\n"
  | some rooms => "Message sent to " ++ ", ".intercalate rooms ++ "\n"

/-- Ends with the first of two outcomes that is a report. -/
def orReport {α : Type} (result : Except String α) (next : α → Outcome) : Outcome :=
  match result with
  | .ok value => next value
  | .error text => .failed text

def send (surroundings : Surroundings) (config : Config) (message : AdHocMessage)
    (runFile : Option String) : Outcome :=
  orReport (runFile.mapM (loadRun surroundings.files)) fun history =>
    orReport (setUp config) fun notifier =>
      let attempt := notifier.sendMessage surroundings.server surroundings.moment [] message
        (history.map History.latest)
      match attempt.result with
      | .ok delivered =>
          { requests := attempt.requests, output := deliveryReport delivered }
      | .error _ =>
          { requests := attempt.requests
            failure := some (.report "Failed to send HipChat message") }

def categoryOf (kind : EventKind) (history : History) : Except NoticeError Category :=
  match kind with
  | .started => .ok .started
  | .completed => history.classify

def dryRunText (category : Category) (notification : Option Notification) : String :=
  "Category: " ++ category.name ++ "\n" ++
    match notification with
    | some notification =>
        "Dry run - would send notification:\n" ++ (V2.document notification).pretty ++ "\n"
    | none => "Notifications for " ++ category.name ++ " are disabled\n"

def dryRun (surroundings : Surroundings) (notifier : Notifier) (kind : EventKind)
    (history : History) : Outcome :=
  match categoryOf kind history with
  | .error error => .failed error.message
  | .ok category =>
      .printed (dryRunText category
        (notifier.prepare surroundings.moment history.latest category))

def report (surroundings : Surroundings) (notifier : Notifier) (kind : EventKind)
    (history : History) : Outcome :=
  let attempt := match kind with
    | .started =>
        notifier.onStarted surroundings.server surroundings.moment [] history.latest
    | .completed =>
        notifier.onCompleted surroundings.server surroundings.moment [] history
  match attempt.result with
  | .ok () => { requests := attempt.requests }
  | .error _ =>
      { requests := attempt.requests, failure := some (.report "Failed to notify HipChat") }

def event (surroundings : Surroundings) (config : Config) (kind : EventKind)
    (runFile : String) (onlyShow : Bool) : Outcome :=
  orReport (loadRun surroundings.files runFile) fun history =>
    orReport (setUp config) fun notifier =>
      if onlyShow then dryRun surroundings notifier kind history
      else report surroundings notifier kind history

def pathReport (path : Option String) : String :=
  path.getD "No configuration file found, using built-in defaults" ++ "\n"

def carryOut (surroundings : Surroundings) (loaded : Config.Loaded) : Command → Outcome
  | .send message runFile => send surroundings loaded.config message runFile
  | .event kind runFile onlyShow => event surroundings loaded.config kind runFile onlyShow
  | .showConfig => .printed (loaded.config.shown ++ "\n")
  | .showConfigPath => .printed (pathReport loaded.path)

def loadConfig (surroundings : Surroundings) (given : Option String) :
    Except NoticeError Config.Loaded :=
  let project := Config.projectDirectory surroundings.files given surroundings.directory
  Config.load surroundings.files project surroundings.home

def name : String := "hipchat-notify"

def versionText : String := name ++ " 0.1.0\n"

def helpText : String :=
  "Build lifecycle notifications for HipChat rooms\n\n" ++
    "Usage: " ++ name ++ " [OPTIONS] <COMMAND>\n\n" ++
    "Commands:\n" ++
    "  send    Send an ad-hoc message to the configured rooms\n" ++
    "  event   Feed a run lifecycle event through the notification pipeline\n" ++
    "  config  Inspect configuration\n" ++
    "  help    Print this message or the help of the given subcommand(s)\n\n" ++
    "Options:\n" ++
    "      --project <PROJECT>  Project path for project-level configuration\n" ++
    "  -v, --verbose            Enable verbose output\n" ++
    "  -h, --help               Print help\n" ++
    "  -V, --version            Print version\n"

def refused : Refusal → Outcome
  | .helpWanted => .printed helpText
  | .versionWanted => .printed versionText
  | refusal => { failure := some (.usage refusal) }

def run (surroundings : Surroundings) (words : List String) : Outcome :=
  match parse surroundings.token words with
  | .error refusal => refused refusal
  | .ok invocation =>
      match loadConfig surroundings invocation.project with
      | .error error => .failed error.message
      | .ok loaded => carryOut surroundings loaded invocation.command

/-! ### The files that matter -/

def runFiles : Command → List String
  | .send _ runFile => runFile.toList
  | .event _ runFile _ => [runFile]
  | .showConfig => []
  | .showConfigPath => []

def paths (directory : String) (home : Option String) (invocation : Invocation) :
    List String :=
  (invocation.project.toList ++ [directory] ++ home.toList).map Config.pathIn ++
    runFiles invocation.command

end Program
end BuildNotices
