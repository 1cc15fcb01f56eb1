import BuildNotices.Config.Document
/-!
Where the configuration comes from.

A single file decides. The one of the project comes first, then the one of the user;
without either the defaults hold. A file that exists but cannot be read, or that holds
no valid configuration, is an error and not a reason to look further.

What a program sees of the files is given as a look-up by path.
-/

namespace BuildNotices

inductive FileState where
  | absent
  /-- Something is there, but no text can be read from it. -/
  | unreadable
  | content (text : String)
deriving Repr, DecidableEq, Inhabited

namespace FileState

def isPresent : FileState → Bool
  | .absent => false
  | _ => true

def text? : FileState → Option String
  | .content text => some text
  | _ => none

end FileState

structure Files where
  look : (path : String) → FileState

def joinPath (directory path : String) : String :=
  if directory.isEmpty || path.startsWith "/" then path
  else if directory.endsWith "/" then directory ++ path
  else directory ++ "/" ++ path

namespace Config

def pathIn (directory : String) : String :=
  joinPath (joinPath directory ".hipchat") "config.toml"

/-- A configuration and the file that it came from; without one the defaults hold. -/
structure Loaded where
  path : Option String
  config : Config
deriving Inhabited

def loadFile (files : Files) (path : String) : Except NoticeError Loaded :=
  match (files.look path).text? with
  | none => .error (.file path "read config file")
  | some text => (ofToml text).map fun config => { path := some path, config }

/-- The file that decides, if there is one: that of the project, or else that of the
user. -/
def decidingFile (files : Files) (project home : Option String) : Option String :=
  let existing (directory : Option String) : Option String :=
    (directory.map pathIn).filter fun path => (files.look path).isPresent
  existing project <|> existing home

def load (files : Files) (project home : Option String) : Except NoticeError Loaded :=
  match decidingFile files project home with
  | some path => loadFile files path
  | none => .ok { path := none, config := {} }

/-- The directory of the project: the given one, or else the current one if it has a
configuration file. -/
def projectDirectory (files : Files) (given : Option String) (current : String) :
    Option String :=
  match given with
  | some directory => some directory
  | none => if (files.look (pathIn current)).isPresent then some current else none

end Config
end BuildNotices
