import BuildNotices.Json.Reader
/-!
Everything that can go wrong between a run and its notification.

An error names its cause; its report, the stage it belongs to, and whether trying
again could help are functions of the cause. Sending to several rooms fails with
one error that holds the error of every room that failed.
-/

namespace BuildNotices

inductive NoticeError where
  /-- A run with this outcome belongs to no category. -/
  | unclassifiable (result : String)
  | credentialMissing (server : String)
  /-- A room answered with another status than the one that means delivery. -/
  | rejected (room : String) (code : Nat)
  /-- A room answered well without confirming that the message was sent. -/
  | unconfirmed (room : String)
  /-- A request got no complete answer. -/
  | transport (room : String)
  /-- No client could be made. That depends on nothing a setting says, so no part of the program
  raises it. -/
  | clientSetup
  | invalidEndpoint (server reason : String)
  | publishFailed (attempted : Nat) (failures : List (String × NoticeError))
  | messageRequired
  /-- A text could not be computed from the variables. The one text that is computed by a template
  of its own is the title of a card, which needs no variable to be there (`Card.titleFor`), so
  no part of the program raises it. -/
  | evaluation (message : String)
  | configuration (message : String)
  | file (path operation : String)
  | malformedToml (context : String)
  | json (problem : Json.Problem)
deriving Repr, Inhabited

namespace NoticeError

def jsonContext : Json.Problem → String
  | .malformed line column =>
      "JSON syntax error at line " ++ toString line ++ " column " ++ toString column
  | .mismatch => "JSON data error"

def message : NoticeError → String
  | .unclassifiable result =>
      "Unable to determine notification category for run result '" ++ result ++ "'"
  | .credentialMissing server =>
      "No usable auth token could be resolved for server '" ++ server ++ "'"
  | .rejected room code =>
      "Room '" ++ room ++ "' rejected the notification with HTTP " ++ toString code
  | .unconfirmed room =>
      "Room '" ++ room ++ "' answered HTTP 200 without confirming the message was sent"
  | .transport room => "Transport failure while posting to room '" ++ room ++ "'"
  | .clientSetup => "Failed to build HTTP client"
  | .invalidEndpoint server reason =>
      "Invalid endpoint for server '" ++ server ++ "': " ++ reason
  | .publishFailed attempted failures =>
      "Failed to deliver notification to " ++ toString failures.length ++ " of " ++
        toString attempted ++ " room(s)"
  | .messageRequired => "A notification message is required"
  | .evaluation message => "Macro evaluation failed: " ++ message
  | .configuration message => "Configuration error: " ++ message
  | .file path operation => "File I/O error for '" ++ path ++ "': " ++ operation
  | .malformedToml context => "TOML parsing error: " ++ context
  | .json problem => "JSON error: " ++ jsonContext problem

inductive Stage where
  | classification
  | credentials
  | delivery
  | network
  | template
  | configuration
  | files
  | serialization
deriving Repr, DecidableEq

def Stage.name : Stage → String
  | .classification => "classification"
  | .credentials => "credentials"
  | .delivery => "delivery"
  | .network => "network"
  | .template => "template"
  | .configuration => "config"
  | .files => "io"
  | .serialization => "serialization"

def stage : NoticeError → Stage
  | .unclassifiable _ => .classification
  | .credentialMissing _ => .credentials
  | .rejected _ _ => .delivery
  | .unconfirmed _ => .delivery
  | .publishFailed _ _ => .delivery
  | .transport _ => .network
  | .clientSetup => .network
  | .invalidEndpoint _ _ => .network
  | .messageRequired => .template
  | .evaluation _ => .template
  | .configuration _ => .configuration
  | .malformedToml _ => .configuration
  | .file _ _ => .files
  | .json _ => .serialization

/-- Whether an answer with a status may be better the next time: a server error, a
timeout, or too many requests. -/
def isPassingStatus (code : Nat) : Bool :=
  500 ≤ code || code = 408 || code = 429

mutual

/-- Whether the same attempt could succeed later. For several rooms it could when
that holds of every room that failed. -/
def isRetryable : NoticeError → Bool
  | .transport _ => true
  | .rejected _ code => isPassingStatus code
  | .publishFailed _ failures => allRetryable failures
  | _ => false

def allRetryable : List (String × NoticeError) → Bool
  | [] => true
  | (_, error) :: rest => error.isRetryable && allRetryable rest

end

end NoticeError
end BuildNotices
