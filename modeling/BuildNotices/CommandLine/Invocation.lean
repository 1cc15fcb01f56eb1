import BuildNotices.CommandLine.Scan
import BuildNotices.Notifier.AdHoc
/-!
What a command line asks for.

A command may be nested in another one. The inner one is checked before the arguments of
the outer one that are still open. An option that every command takes counts where it
stands innermost.
-/

namespace BuildNotices
namespace CommandLine

inductive Command where
  /-- To send a message, in which the run of a file may be referred to. -/
  | send (message : AdHocMessage) (run : Option String)
  /-- To report an event of the run of a file, or only to show the notification. -/
  | event (kind : EventKind) (run : String) (dryRun : Bool)
  | showConfig
  | showConfigPath
deriving Repr, DecidableEq

structure Invocation where
  command : Command
  project : Option String
  verbose : Bool
deriving Repr, DecidableEq

def Invocation.under (inner : Invocation) (given : Given) : Invocation :=
  { inner with
    project := inner.project <|> given.value? .project
    verbose := inner.verbose || given.has .verbose }

def Invocation.of (command : Command) (given : Given) : Invocation where
  command := command
  project := given.value? .project
  verbose := given.has .verbose

/-! ### Commands without further commands -/

def readGiven (level : Level) (words : List String) : Except Refusal Given := do
  let (progress, _) ← scan level words
  return (← progress.settle).given

def exclude (given : Given) (first second : Argument) : Except Refusal Unit :=
  if given.has first && given.has second then .error .conflict else .ok ()

def need (given : Given) (argument : Argument) : Except Refusal String :=
  match given.value? argument with
  | some value => .ok value
  | none => .error .missingArgument

def choice (given : Given) (yes no : Argument) : Option Bool :=
  if given.has yes then some true
  else if given.has no then some false
  else none

/-- The command to send a message. Without an option for the token the one of the
environment counts. -/
def readSend (environmentToken : Option String) (words : List String) :
    Except Refusal Invocation := do
  let given ← readGiven .send words
  exclude given .notify .noNotify
  exclude given .v2 .v1
  let text ← need given .message
  let overrides : Overrides :=
    { rooms := given.value? .room
      server := given.value? .server
      token := given.value? .token <|> environmentToken
      credentialId := given.value? .credentialId
      newer := choice given .v2 .v1
      sender := given.value? .sendAs
      failOnError := if given.has .failOnError then some true else none }
  let message : AdHocMessage :=
    { text
      color := (given.value? .color).bind fun name => (Color.parse name).toOption
      notify := choice given .notify .noNotify
      plainText := given.has .textFormat
      icon := given.value? .icon
      overrides }
  return .of (.send message (given.value? .run)) given

def readEvent (words : List String) : Except Refusal Invocation := do
  let given ← readGiven .event words
  let kindName ← need given .kind
  let run ← need given .run
  match EventKind.named? kindName with
  | some kind => return .of (.event kind run (given.has .dryRun)) given
  | none => throw .invalidValue

def readBare (command : Command) (words : List String) : Except Refusal Invocation := do
  let given ← readGiven .bare words
  return .of command given

/-! ### Commands with further commands -/

def withoutCommand (given : Given) : Refusal :=
  if given.isEmpty then .nothingGiven else .missingCommand

def readNested (level : Level) (inner : NextCommand → Except Refusal Invocation)
    (words : List String) : Except Refusal Invocation := do
  match ← scan level words with
  | (progress, none) =>
      let progress ← progress.settle
      throw (withoutCommand progress.given)
  | (progress, some next) =>
      let invocation ← inner next
      let progress ← progress.settle
      return invocation.under progress.given

def helpOnConfig : List String → Refusal
  | [] => .helpWanted
  | [name] => if Level.config.commands.contains name then .helpWanted else .unknownCommand
  | _ => .unknownCommand

def helpOn : List String → Refusal
  | [] => .helpWanted
  | "config" :: names => helpOnConfig names
  | [name] => if Level.program.commands.contains name then .helpWanted else .unknownCommand
  | _ => .unknownCommand

def readConfig (words : List String) : Except Refusal Invocation :=
  readNested .config
    (fun next =>
      match next.name with
      | "show" => readBare .showConfig next.words
      | "path" => readBare .showConfigPath next.words
      | _ => .error (helpOnConfig next.words))
    words

def parse (environmentToken : Option String) (words : List String) :
    Except Refusal Invocation :=
  readNested .program
    (fun next =>
      match next.name with
      | "send" => readSend environmentToken next.words
      | "event" => readEvent next.words
      | "config" => readConfig next.words
      | _ => .error (helpOn next.words))
    words

end CommandLine
end BuildNotices
