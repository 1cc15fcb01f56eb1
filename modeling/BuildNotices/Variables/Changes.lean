import BuildNotices.Run.Basic
import BuildNotices.Text.Search
/-!
Change sets in words.

A change set is summed up by its authors, in code point order and without
repetition, and by the number of files they touched.
-/

namespace BuildNotices

open Text

namespace Change

def authorName (change : Change) : String :=
  change.author.getD "unknown"

/-- The number of files of a change; zero where the source control cannot tell. -/
def fileCount (change : Change) : UInt64 :=
  match change.affectedFiles with
  | .found count => count
  | .unsupported => 0

def isSupported (change : Change) : Bool :=
  change.affectedFiles ≠ .unsupported

end Change

def authorsOf (changes : List Change) : List String :=
  (Dictionary.ofList (changes.map fun change => (change.authorName, ()))).entries.map Prod.fst

def filesChanged (changes : List Change) : UInt64 :=
  changes.foldl (fun count change => count + change.fileCount) 0

def noChanges : String := "No Changes"

def changeSummary (changes : List Change) : String :=
  "Started by changes from " ++ ", ".intercalate (authorsOf changes) ++ " (" ++
    toString (filesChanged changes).toNat ++ " file(s) changed)"

inductive ChangeReport where
  /-- The run has no change set. -/
  | absent
  /-- For at least one change the files are not known; the summary counts the others. -/
  | incomplete (summary : String)
  /-- The files of every change are known; there is a summary if there are any. -/
  | complete (summary : Option String) (commitMessage : String)
deriving Repr, DecidableEq

def Run.changeReport (run : Run) : ChangeReport :=
  match run.changes with
  | none => .absent
  | some changes =>
      if changes.all Change.isSupported then
        .complete
          (if filesChanged changes = 0 then none else some (changeSummary changes))
          ((changes.getLast?.map fun change => firstLine change.message).getD "")
      else
        .incomplete (changeSummary changes)

end BuildNotices
