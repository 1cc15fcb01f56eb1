import BuildNotices.CommandLine.Argument
/-!
Reading the words of a command.

Words are read from left to right up to the word that names the next command. An
option keeps its value open until the next argument, and only then is the value
checked; a flag counts at once. So of several faults the one that is noticed first is
reported. An argument that is unknown is reported before a value that is still open.
-/

namespace BuildNotices
namespace CommandLine

/-- The arguments that were given, with their values; a flag has the empty one. -/
abbrev Given : Type := List (Argument × String)

namespace Given

def value? (given : Given) (argument : Argument) : Option String :=
  (given.find? fun entry => entry.1 = argument).map Prod.snd

def has (given : Given) (argument : Argument) : Bool :=
  (given.value? argument).isSome

end Given

structure OpenArgument where
  argument : Argument
  value : Option String
deriving Repr, DecidableEq

structure Progress where
  given : Given := []
  pending : Option OpenArgument := none
  /-- The operands that are still to come. -/
  operands : List Argument
deriving Repr, DecidableEq

namespace Progress

def awaitsValue (progress : Progress) : Bool :=
  progress.pending.any fun pending => pending.value.isNone

def record (progress : Progress) (argument : Argument) (value : String) :
    Except Refusal Progress := do
  if progress.given.has argument then
    throw .conflict
  argument.accept value
  return { progress with given := progress.given ++ [(argument, value)] }

def settle (progress : Progress) : Except Refusal Progress :=
  match progress.pending with
  | none => .ok progress
  | some ⟨_, none⟩ => .error .invalidValue
  | some ⟨argument, some value⟩ => { progress with pending := none }.record argument value

def flag (progress : Progress) (argument : Argument) : Except Refusal Progress := do
  let progress ← progress.settle
  match argument with
  | .help => throw .helpWanted
  | .version => throw .versionWanted
  | _ => progress.record argument ""

def option (progress : Progress) (argument : Argument) (attached : Option String) :
    Except Refusal Progress := do
  -- A value that is still open is checked before this argument is taken.
  let progress ← progress.settle
  match attached with
  | some value => progress.record argument value
  | none => return { progress with pending := some { argument, value := none } }

def supply (progress : Progress) (value : String) : Progress :=
  { progress with pending := progress.pending.map fun pending => { pending with value } }

def long (level : Level) (progress : Progress) (name : String) (attached : Option String) :
    Except Refusal Progress :=
  match level.options.find? fun argument => argument.long? == some name with
  | none => .error .unknownArgument
  | some argument =>
      if !argument.isFlag then progress.option argument attached
      else if attached.isSome then .error .unexpectedValue
      else progress.flag argument

/-- Takes the letters behind one hyphen. All but the last stand for flags; behind an option
with a value stands its value, with or without an equals sign. -/
def shorts (level : Level) (progress : Progress) : List Char → Except Refusal Progress
  | [] => .ok progress
  | letter :: rest =>
      match level.options.find? fun argument => argument.short? == some letter with
      | none => .error .unknownArgument
      | some argument =>
          if argument.isFlag then
            (progress.flag argument).bind fun progress => shorts level progress rest
          else
            match rest with
            | [] => progress.option argument none
            | '=' :: value => progress.option argument (some (String.ofList value))
            | value => progress.option argument (some (String.ofList value))

end Progress

/-! ### Words -/

def longParts? (word : String) : Option (String × Option String) :=
  match word.toList with
  | '-' :: '-' :: chars =>
      let name := String.ofList (chars.takeWhile (· ≠ '='))
      match chars.dropWhile (· ≠ '=') with
      | _ :: value => some (name, some (String.ofList value))
      | [] => some (name, none)
  | _ => none

/-- The letters of short options in a word. A lone hyphen is an ordinary word. -/
def shortLetters? (word : String) : Option (List Char) :=
  match word.toList with
  | '-' :: letter :: rest => some (letter :: rest)
  | _ => none

/-- The fault of a word for which there is no place. Behind the separator the name of a
command is no command. -/
def misplaced (level : Level) (operandsOnly : Bool) (word : String) : Refusal :=
  if level.commands.isEmpty || (operandsOnly && level.commands.contains word) then
    .unknownArgument
  else
    .unknownCommand

def takeOperand (level : Level) (operandsOnly : Bool) (progress : Progress) (word : String) :
    Except Refusal Progress :=
  match progress.operands with
  | [] => .error (misplaced level operandsOnly word)
  | argument :: operands => do
      let progress ← progress.settle
      return { progress with pending := some { argument, value := some word }, operands }

structure NextCommand where
  name : String
  words : List String
deriving Repr, DecidableEq

/-- Reads the words of a command, up to the name of the next command if there is one.
Behind the separator there are only operands. -/
def scanWords (level : Level) (operandsOnly : Bool) (progress : Progress) :
    List String → Except Refusal (Progress × Option NextCommand)
  | [] => .ok (progress, none)
  | word :: rest =>
      if operandsOnly then
        (takeOperand level true progress word).bind fun progress =>
          scanWords level true progress rest
      else if !progress.awaitsValue && level.commands.contains word then
        .ok (progress, some ⟨word, rest⟩)
      else if word = "--" then
        scanWords level true progress rest
      else
        match longParts? word, shortLetters? word with
        | some (name, attached), _ =>
            (progress.long level name attached).bind fun progress =>
              scanWords level false progress rest
        | none, some letters =>
            (progress.shorts level letters).bind fun progress =>
              scanWords level false progress rest
        | none, none =>
            if progress.awaitsValue then
              scanWords level false (progress.supply word) rest
            else
              (takeOperand level false progress word).bind fun progress =>
                scanWords level false progress rest

def scan (level : Level) (words : List String) :
    Except Refusal (Progress × Option NextCommand) :=
  scanWords level false { operands := level.operands } words

end CommandLine
end BuildNotices
