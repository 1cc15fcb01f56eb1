import BuildNotices.Text.Blank
import BuildNotices.Text.Search
/-!
Rooms to deliver to.
-/

namespace BuildNotices

open Text

structure Target where
  room : String
  server : String
  token : String
  /-- The name of the sender, which only the older protocol shows. -/
  sender : String
deriving Repr, DecidableEq, Inhabited

def roomIds (rooms : String) : List String :=
  ((spacedFields ',' false (trim rooms.toList)).map fun field =>
    String.ofList (trim field)).filter (· ≠ "")

def roomTargets (rooms server token sender : String) : List Target :=
  (roomIds rooms).map fun room => { room, server, token, sender }

end BuildNotices
