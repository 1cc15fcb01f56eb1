import BuildNotices.Notification.Identifier
import BuildNotices.Program
import Std.Time.DateTime.Timestamp
/-!
The command line of the program.

This is the outer layer: it reads the files that the words ask for, the environment, and
the clock, runs the program, and prints what it leaves behind. It has no connection to a
network, so that every request stays without an answer.
-/

namespace BuildNotices
namespace Console

/-- Whether a path leads to anything. Below a plain file, or below a directory that may not be
entered, it does not. -/
def leadsSomewhere (path : String) : IO Bool := do
  try
    let _ ← IO.FS.realPath path
    return true
  catch _ =>
    return false

def lookAt (path : String) : IO FileState := do
  try
    return .content (← IO.FS.readFile path)
  catch _ =>
    return if ← leadsSomewhere path then .unreadable else .absent

def lookAtAll (paths : List String) : IO Files := do
  let found ← paths.mapM fun path => do
    return (path, ← lookAt path)
  return { look := fun path => (found.lookup path).getD .absent }

def presentMoment : IO Moment := do
  let stamp ← Std.Time.Timestamp.now
  let nanoseconds := stamp.toNanosecondsSinceUnixEpoch.val
  let bytes ← IO.getRandomBytes 16
  return {
    now := ⟨nanoseconds / 1000000000, (nanoseconds % 1000000000).toNat⟩
    cardId := identifierOf bytes.toList }

def failureText : Failure → String
  | .report text => "Error: " ++ text
  | .usage _ => "error: the command line was not understood\n\n" ++ Program.helpText

end Console
end BuildNotices

open BuildNotices Console
def main (words : List String) : IO UInt32 := do
  let directory := toString (← IO.currentDir)
  let home ← IO.getEnv "HOME"
  let token ← IO.getEnv "HIPCHAT_TOKEN"
  let paths := match CommandLine.parse token words with
    | .ok invocation => Program.paths directory home invocation
    | .error _ => []
  let files ← lookAtAll paths
  let moment ← presentMoment
  let outcome := Program.run
    { files, directory, home, token, moment, server := fun _ => .failure } words
  IO.print outcome.output
  match outcome.failure with
  | some failure => IO.eprintln (failureText failure)
  | none => return 0
  return outcome.exitCode.toUInt32
