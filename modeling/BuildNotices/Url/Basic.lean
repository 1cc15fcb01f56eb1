import BuildNotices.Url.Host
/-!
URLs in parts.

A URL keeps its parts in their encoded form. Its path is a list of segments, each of
which follows a slash, or, when nothing in the URL follows a slash directly behind the
scheme, a text without further structure.
-/

namespace BuildNotices

namespace Url

structure Authority where
  username : String := ""
  password : String := ""
  host : Host
  /-- The port, unless it is the default of the scheme. -/
  port : Option Nat := none
deriving Repr, DecidableEq, Inhabited

inductive Path where
  | segments (list : List String)
  /-- The path of a URL that other URLs cannot be built upon. -/
  | rootless (text : String)
deriving Repr, DecidableEq, Inhabited

end Url

structure Url where
  scheme : String
  authority : Option Url.Authority
  path : Url.Path
  query : Option String := none
  fragment : Option String := none
deriving Repr, DecidableEq, Inhabited

namespace Url

def defaultPort? (scheme : String) : Option Nat :=
  match scheme with
  | "http" => some 80
  | "ws" => some 80
  | "https" => some 443
  | "wss" => some 443
  | "ftp" => some 21
  | _ => none

def isFileScheme (scheme : String) : Bool :=
  scheme = "file"

/-- Whether the syntax of a scheme is the one of web addresses, in which a backslash
separates like a slash. -/
def isSpecialScheme (scheme : String) : Bool :=
  (defaultPort? scheme).isSome || isFileScheme scheme

def Authority.userinfo (authority : Authority) : String :=
  if authority.username = "" && authority.password = "" then
    ""
  else if authority.password = "" then
    authority.username ++ "@"
  else
    authority.username ++ ":" ++ authority.password ++ "@"

def Authority.text (authority : Authority) : String :=
  authority.userinfo ++ authority.host.text ++
    (match authority.port with
      | none => ""
      | some port => ":" ++ toString port)

def segmentsText (segments : List String) : String :=
  String.join (segments.map fun segment => "/" ++ segment)

def Path.text : Path → String
  | .segments list => segmentsText list
  | .rootless text => text

/-- What stands between the scheme and the path. Without authority, a path that would
look like one is held off by a point. -/
def authorityText (url : Url) : String :=
  match url.authority, url.path with
  | some authority, _ => "//" ++ authority.text
  | none, .segments ("" :: _ :: _) => "/."
  | none, _ => ""

def optionalText (mark : String) : Option String → String
  | none => ""
  | some text => mark ++ text

def textWithoutFragment (url : Url) : String :=
  url.scheme ++ ":" ++ url.authorityText ++ url.path.text ++ optionalText "?" url.query

def text (url : Url) : String :=
  url.textWithoutFragment ++ optionalText "#" url.fragment

/-- Whether other URLs can be built upon a URL, by adding to its path. -/
def isBase (url : Url) : Bool :=
  match url.authority, url.path with
  | some _, _ => true
  | none, .segments _ => true
  | none, .rootless _ => false

/-! ### Adding to a URL -/

def dropEmptyEnd (segments : List String) : List String :=
  if 1 < segments.length && segments.getLast? = some "" then segments.dropLast else segments

def isIgnored (c : Char) : Bool :=
  c = '\t' || c = '\n' || c = '\r'

/-- Appends a written segment; the path that is a lone slash takes it in place of its
empty segment. -/
def appendWritten (segments : List String) (segment : String) : List String :=
  if segments = [""] then [segment] else segments ++ [segment]

def isDriveName (chars : List Char) : Bool :=
  match chars with
  | [letter, mark] => letter.isAlpha && (mark = ':' || mark = '|')
  | _ => false

/-- Appends one segment to a path. The segments `.` and `..` add nothing; a segment
that only becomes one of them when its line breaks and tabs vanish counts as a step
in the path, to the same or to the outer folder. -/
def appendSegment (scheme : String) (segments : List String) (segment : String) :
    List String :=
  if segment = "." || segment = ".." then
    segments
  else
    let chars := segment.toList.filter fun c => !isIgnored c
    if chars = ".".toList then
      appendWritten segments ""
    else if chars = "..".toList then
      if segments = [""] then segments else segments.dropLast ++ [""]
    else if isFileScheme scheme && isDriveName chars && (segments = [""] || segments = []) then
      [String.ofList (chars.take 1 ++ [':'])]
    else
      let escaped := if isSpecialScheme scheme then specialSegmentSet else segmentSet
      appendWritten segments (String.ofList (encode escaped chars))

/-- A URL with segments added to its path, after an empty last segment is dropped.
Query and fragment stay. A URL that is no base has no path to add to. -/
def append? (url : Url) (segments : List String) : Option Url :=
  match url.path with
  | .rootless _ => none
  | .segments path =>
      some { url with
        path := .segments (segments.foldl (appendSegment url.scheme) (dropEmptyEnd path)) }

def appendQuery (url : Url) (pair : String × String) : Url :=
  let written := formEncode [pair]
  { url with
    query := match url.query with
      | none => some written
      | some "" => some written
      | some query => some (query ++ "&" ++ written) }

end Url
end BuildNotices
