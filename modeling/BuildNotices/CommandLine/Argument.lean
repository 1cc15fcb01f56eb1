import BuildNotices.Notification.Basic
/-!
The arguments of the program.

An argument is an option, which is named, or an operand, which is known by its place.
Options that take no value are flags. Some values are checked as soon as they are known.
-/

namespace BuildNotices
namespace CommandLine

inductive Refusal where
  | missingArgument
  | unknownArgument
  /-- A value is missing, is empty where it must not be, or is none of the possible ones. -/
  | invalidValue
  /-- A value cannot be understood. -/
  | malformedValue
  /-- A flag is given a value. -/
  | unexpectedValue
  /-- Two arguments exclude each other, or one is given twice. -/
  | conflict
  | unknownCommand
  | missingCommand
  /-- Nothing at all is given where a command is needed. -/
  | nothingGiven
  /-- Help is asked for. -/
  | helpWanted
  /-- The version is asked for. -/
  | versionWanted
deriving Repr, DecidableEq

inductive Argument where
  | help
  | version
  | project
  | verbose
  | message
  | color
  | notify
  | noNotify
  | textFormat
  | icon
  | room
  | server
  | token
  | credentialId
  | v2
  | v1
  | sendAs
  | failOnError
  | run
  | kind
  | dryRun
deriving Repr, DecidableEq

namespace Argument

def long? : Argument → Option String
  | .help => some "help"
  | .version => some "version"
  | .project => some "project"
  | .verbose => some "verbose"
  | .color => some "color"
  | .notify => some "notify"
  | .noNotify => some "no-notify"
  | .textFormat => some "text-format"
  | .icon => some "icon"
  | .room => some "room"
  | .server => some "server"
  | .token => some "token"
  | .credentialId => some "credential-id"
  | .v2 => some "v2"
  | .v1 => some "v1"
  | .sendAs => some "send-as"
  | .failOnError => some "fail-on-error"
  | .run => some "run"
  | .dryRun => some "dry-run"
  | .message => none
  | .kind => none

def short? : Argument → Option Char
  | .help => some 'h'
  | .version => some 'V'
  | .verbose => some 'v'
  | .color => some 'c'
  | .room => some 'r'
  | _ => none

def isFlag : Argument → Bool
  | .help => true
  | .version => true
  | .verbose => true
  | .notify => true
  | .noNotify => true
  | .textFormat => true
  | .v2 => true
  | .v1 => true
  | .failOnError => true
  | .dryRun => true
  | _ => false

end Argument

inductive EventKind where
  | started
  | completed
deriving Repr, DecidableEq

namespace EventKind

def name : EventKind → String
  | .started => "started"
  | .completed => "completed"

def named? (name : String) : Option EventKind :=
  [.started, .completed].find? fun kind => kind.name == name

end EventKind

/-- Accepts a value of an argument. A path must not be empty, and a color and an event
must be known. -/
def Argument.accept (argument : Argument) (value : String) : Except Refusal Unit :=
  match argument with
  | .project => if value.isEmpty then .error .invalidValue else .ok ()
  | .run => if value.isEmpty then .error .invalidValue else .ok ()
  | .color => (Color.parse value).mapError (fun _ => .malformedValue) |>.map fun _ => ()
  | .kind => if (EventKind.named? value).isSome then .ok () else .error .invalidValue
  | _ => .ok ()

structure Level where
  options : List Argument
  operands : List Argument := []
  /-- The commands that may follow. -/
  commands : List String := []
deriving Repr, DecidableEq

namespace Level

def common : List Argument := [.project, .verbose, .help]

def helpCommand : String := "help"

def program : Level where
  options := .version :: common
  commands := ["send", "event", "config", helpCommand]

def send : Level where
  options :=
    [.color, .notify, .noNotify, .textFormat, .icon, .room, .server, .token, .credentialId,
      .v2, .v1, .sendAs, .failOnError, .run] ++ common
  operands := [.message]

def event : Level where
  options := [.run, .dryRun] ++ common
  operands := [.kind]

def config : Level where
  options := common
  commands := ["show", "path", helpCommand]

def bare : Level where
  options := common

end Level
end CommandLine
end BuildNotices
