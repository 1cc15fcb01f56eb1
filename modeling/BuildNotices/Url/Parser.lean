import BuildNotices.Text.Blank
import BuildNotices.Url.Basic
import BuildNotices.Url.Domain
/-!
Texts read as URLs.

Control characters and spaces around the text, and line breaks and tabs inside it,
do not count. Only texts with a scheme are read; there is nothing that a text without
one could be relative to.
-/

namespace BuildNotices
namespace Url

open Text

/-! ### Schemes -/

def splitScheme? (chars : List Char) : Option (String × List Char) :=
  let isSchemeChar (c : Char) : Bool := c.isAlphanum || "+-.".toList.contains c
  let scheme := chars.takeWhile isSchemeChar
  match chars.dropWhile isSchemeChar with
  | ':' :: rest =>
      if scheme.head?.any Char.isAlpha then
        some (String.ofList (scheme.map Char.toLower), rest)
      else
        none
  | _ => none

/-! ### Paths -/

def endsPath (c : Char) : Bool :=
  c = '?' || c = '#'

def splitSegments (backslash : Bool) (chars : List Char) : List (List Char) :=
  fields '/' (if backslash then chars.map fun c => if c = '\\' then '/' else c else chars)

def plainPoints : List Char → List Char
  | '%' :: '2' :: 'e' :: rest => '.' :: plainPoints rest
  | '%' :: '2' :: 'E' :: rest => '.' :: plainPoints rest
  | c :: rest => c :: plainPoints rest
  | [] => []

def isSingleDot (segment : List Char) : Bool :=
  plainPoints segment = ['.']

def isDoubleDot (segment : List Char) : Bool :=
  plainPoints segment = ['.', '.']

/-- Drops the last of the segments read so far, which are listed in reverse; the drive
at the start of a file path stays. -/
def stepOut (file : Bool) (reversed : List String) : List String :=
  match reversed with
  | [] => []
  | [only] =>
      if file && isDriveName only.toList && only.toList.getLast? = some ':' then [only] else []
  | _ :: outer => outer

/-- A segment as it is kept; the name of a drive at the start of a file path gets a
colon. -/
def writtenSegment (file : Bool) (reversed : List String) (segment : List Char) : String :=
  if file && reversed.isEmpty && isDriveName segment then
    String.ofList (segment.take 1 ++ [':'])
  else
    String.ofList (encode pathSet segment)

def resolveSteps (file : Bool) : List (List Char) → List String → List String
  | [], reversed => reversed.reverse
  | [last], reversed =>
      -- A step at the end leads to a folder, which ends in an empty segment.
      if isDoubleDot last then ("" :: stepOut file reversed).reverse
      else if isSingleDot last then ("" :: reversed).reverse
      else (writtenSegment file reversed last :: reversed).reverse
  | segment :: rest, reversed =>
      if isDoubleDot segment then resolveSteps file rest (stepOut file reversed)
      else if isSingleDot segment then resolveSteps file rest reversed
      else resolveSteps file rest (writtenSegment file reversed segment :: reversed)

/-- In a file path, the colon of a drive ends its segment. -/
def splitDrive (chars : List Char) : List Char :=
  match chars with
  | letter :: ':' :: c :: rest =>
      if letter.isAlpha && c ≠ '/' && c ≠ '\\' then letter :: ':' :: '/' :: c :: rest else chars
  | _ => chars

/-- Drops empty segments at the start, but not the last segment. -/
def dropEmptyStart : List String → List String
  | "" :: next :: rest => dropEmptyStart (next :: rest)
  | segments => segments

/-- The segments of the path of a known scheme, which is never empty. -/
def specialSegments (file : Bool) (path : List Char) : List String :=
  let inner := match path with
    | '/' :: rest => rest
    | '\\' :: rest => rest
    | rest => rest
  if file then
    dropEmptyStart (resolveSteps true (splitSegments true (splitDrive inner)) [])
  else
    resolveSteps false (splitSegments true inner) []

def plainSegments (path : List Char) : List String :=
  match path with
  | [] => []
  | '/' :: rest => resolveSteps false (splitSegments false rest) []
  | rest => resolveSteps false (splitSegments false rest) []

/-! ### Query and fragment -/

def withRest (url : Url) (rest : List Char) : Url :=
  let querySet := if isSpecialScheme url.scheme then specialQuerySet else querySet
  let query := match rest with
    | '?' :: rest => some (String.ofList (encode querySet (rest.takeWhile (· ≠ '#'))))
    | _ => none
  let fragment := match rest.dropWhile (· ≠ '#') with
    | _ :: rest => some (String.ofList (encode fragmentSet rest))
    | [] => none
  { url with query, fragment }

/-! ### Authorities -/

def endsAuthority (special : Bool) (c : Char) : Bool :=
  c = '/' || c = '?' || c = '#' || (special && c = '\\')

def splitAtLast? (mark : Char) (chars : List Char) : Option (List Char × List Char) :=
  if chars.contains mark then
    let behind := (chars.reverse.takeWhile (· ≠ mark)).reverse
    some (chars.take (chars.length - behind.length - 1), behind)
  else
    none

def readUserinfo (chars : List Char) : String × String :=
  let user := chars.takeWhile (· ≠ ':')
  let password := chars.drop (user.length + 1)
  (String.ofList (encode userinfoSet user), String.ofList (encode userinfoSet password))

/-- The host at the start of a text, and what follows it. A colon inside brackets does
not end the host. -/
def splitHost (special : Bool) : List Char → (bracketed : Bool) → List Char × List Char
  | [], _ => ([], [])
  | c :: rest, bracketed =>
      if (c = ':' && !bracketed) || endsAuthority special c then
        ([], c :: rest)
      else
        let inside := if c = '[' then true else if c = ']' then false else bracketed
        let (host, behind) := splitHost special rest inside
        (c :: host, behind)

/-- Reads the port behind a colon; the default port of the scheme counts as none. -/
def readPort (scheme : String) (chars : List Char) : Except Fault (Option Nat × List Char) :=
  let digits := chars.takeWhile isDigit
  let rest := chars.dropWhile isDigit
  let port := decimalValue digits
  if 65535 < port then
    .error .invalidPort
  else if rest.head?.any fun c => !(c = '/' || c = '\\' || c = '?' || c = '#') then
    .error .invalidPort
  else if digits.isEmpty || defaultPort? scheme = some port then
    .ok (none, rest)
  else
    .ok (some port, rest)

def readAuthority (scheme : String) (chars : List Char) : Except Fault Url := do
  let special := isSpecialScheme scheme
  let authority := chars.takeWhile fun c => !endsAuthority special c
  let behind := chars.drop authority.length
  let (userinfo, hostAndRest) := match splitAtLast? '@' authority with
    | none => (none, chars)
    | some (userinfo, host) => (some userinfo, host ++ behind)
  if userinfo = some [] && hostAndRest.head?.any (endsAuthority special) then
    throw .emptyHost
  let (username, password) := readUserinfo (userinfo.getD [])
  let (hostChars, rest) := splitHost special hostAndRest false
  if special && hostChars.isEmpty then
    throw .emptyHost
  let host ← if special then readDomainHost hostChars else readPlainHost hostChars
  let nameless := host = .name ""
  if nameless && (special || rest.head? = some ':') then
    throw .emptyHost
  let (port, rest) ← match rest with
    | ':' :: rest => readPort scheme rest
    | rest => pure (none, rest)
  if nameless && (username ≠ "" || password ≠ "") then
    throw .emptyHost
  let path := rest.takeWhile fun c => !endsPath c
  let segments := if special then specialSegments false path else plainSegments path
  let url : Url :=
    { scheme, authority := some { username, password, host, port }, path := .segments segments }
  return url.withRest (rest.drop path.length)

/-! ### Files -/

/-- Reads the host of a file URL; the own machine counts as no host. -/
def readFileHost (chars : List Char) : Except Fault Host := do
  if chars.isEmpty then
    return .name ""
  let host ← readDomainHost chars
  return if host = .name "localhost" then .name "" else host

def readFile (chars : List Char) : Except Fault Url := do
  let isSlash (c : Char) : Bool := c = '/' || c = '\\'
  let ofPath (host : Host) (rest : List Char) : Url :=
    let path := rest.takeWhile fun c => !endsPath c
    let segments := specialSegments true path
    -- A drive is one of the own machine, whatever host was read in front of it.
    let host := if segments.head?.any fun segment => isDriveName segment.toList
      then .name "" else host
    let url : Url :=
      { scheme := "file", authority := some { host }, path := .segments segments }
    url.withRest (rest.drop path.length)
  match chars with
  | first :: second :: rest =>
      if isSlash first && isSlash second then
        let hostChars := rest.takeWhile fun c => !(isSlash c || endsPath c)
        if isDriveName hostChars then
          return ofPath (.name "") rest
        else
          let host ← readFileHost hostChars
          return ofPath host (rest.drop hostChars.length)
      else
        return ofPath (.name "") chars
  | _ => return ofPath (.name "") chars

/-! ### URLs -/

def readPlain (scheme : String) (chars : List Char) : Except Fault Url :=
  match chars with
  | '/' :: '/' :: rest => readAuthority scheme rest
  | _ =>
      let path := chars.takeWhile fun c => !endsPath c
      let kept : Path := match path with
        | '/' :: _ => .segments (plainSegments path)
        | _ => .rootless (String.ofList (encode controlSet path))
      let url : Url := { scheme, authority := none, path := kept }
      .ok (url.withRest (chars.drop path.length))

def significant (text : String) : List Char :=
  (stripWhile (fun c => c.toNat ≤ 0x20) text.toList).filter fun c => !isIgnored c

def parse (text : String) : Except Fault Url :=
  match splitScheme? (significant text) with
  | none => .error .missingScheme
  | some (scheme, rest) =>
      if isFileScheme scheme then
        readFile rest
      else if isSpecialScheme scheme then
        readAuthority scheme (rest.dropWhile fun c => c = '/' || c = '\\')
      else
        readPlain scheme rest

end Url
end BuildNotices
