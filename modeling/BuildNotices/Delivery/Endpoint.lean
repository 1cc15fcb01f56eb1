import BuildNotices.Error
import BuildNotices.Url.Parser
/-!
The addresses that requests are sent to.
-/

namespace BuildNotices

open Text

def serverName (server : String) : String :=
  withoutFinalSlashes (trimmed server)

/-- The URL that a server text stands for: the text itself when it has a scheme, and
otherwise a host name to be reached over `https`. -/
def serverText (server : String) : String :=
  let name := serverName server
  if hasSchemeMark name then name else "https://" ++ name

def serverUrl (server : String) : Except NoticeError Url :=
  let name := serverName server
  if name = "" then
    .error (.invalidEndpoint name "server is empty")
  else
    match Url.parse (serverText server) with
    | .error fault => .error (.invalidEndpoint name fault.message)
    | .ok url =>
        if url.isBase then .ok url else .error (.invalidEndpoint name "not a base URL")

def endpoint (base : Url) (segments : List String) : Except NoticeError Url :=
  match base.append? segments with
  | some url => .ok url
  | none => .error (.invalidEndpoint base.text "not a base URL")

end BuildNotices
