import BuildNotices.Delivery.Proxy
import BuildNotices.Delivery.Request
/-!
Delivery to several rooms.

Rooms are tried one after the other, whatever happened before, and each gets at most
one request. Only when all have been tried is the outcome known: the rooms in order if
every one of them took the message, and otherwise an error that holds every failure.

A server is given by its answers: each depends on all the requests that it has
received so far, the one that it answers included.
-/

namespace BuildNotices

inductive Answer where
  | response (status : Nat) (body : String)
  /-- No complete answer came back. -/
  | failure
deriving Repr, DecidableEq, Inhabited

/-- The answer to the last of some requests. -/
abbrev Server : Type := List Request → Answer

/-- What an attempt leaves behind: all requests so far, and what came of it. -/
structure Attempt (α : Type) where
  requests : List Request
  result : Except NoticeError α

namespace Attempt

def mapResult {α β : Type} (change : Except NoticeError α → Except NoticeError β)
    (attempt : Attempt α) : Attempt β :=
  { requests := attempt.requests, result := change attempt.result }

section MapResult

variable {α β : Type} (change : Except NoticeError α → Except NoticeError β) (attempt : Attempt α)

@[simp]
theorem requests_mapResult : (attempt.mapResult change).requests = attempt.requests := rfl

@[simp]
theorem result_mapResult : (attempt.mapResult change).result = change attempt.result := rfl

theorem mapResult_mapResult {γ : Type} (next : Except NoticeError β → Except NoticeError γ) :
    (attempt.mapResult change).mapResult next =
      attempt.mapResult fun result => next (change result) := rfl

end MapResult

end Attempt

def Protocol.check (protocol : Protocol) (room : String) (answer : Answer) :
    Except NoticeError Unit :=
  match answer with
  | .failure => .error (.transport room)
  | .response status body =>
      match protocol with
      | .v1 =>
          if status ≠ 200 then .error (.rejected room status)
          else if Text.contains body "sent" then .ok ()
          else .error (.unconfirmed room)
      | .v2 => if status = 204 then .ok () else .error (.rejected room status)

def deliverTo (server : Server) (protocol : Protocol) (notification : Notification)
    (requests : List Request) (target : Target) : Attempt Unit :=
  match Request.make protocol target notification with
  | .error error => { requests, result := .error error }
  | .ok request =>
      let requests := requests ++ [request]
      { requests, result := protocol.check target.room (server requests) }

def deliverAll (server : Server) (protocol : Protocol) (notification : Notification) :
    (requests : List Request) → List Target →
      List Request × List (String × Except NoticeError Unit)
  | requests, [] => (requests, [])
  | requests, target :: rest =>
      let first := deliverTo server protocol notification requests target
      let (requests, others) := deliverAll server protocol notification first.requests rest
      (requests, (target.room, first.result) :: others)

def failuresOf (outcomes : List (String × Except NoticeError Unit)) :
    List (String × NoticeError) :=
  outcomes.filterMap fun (room, outcome) =>
    match outcome with
    | .ok () => none
    | .error error => some (room, error)

def combine (outcomes : List (String × Except NoticeError Unit)) :
    Except NoticeError (List String) :=
  match failuresOf outcomes with
  | [] => .ok (outcomes.map Prod.fst)
  | failures => .error (.publishFailed outcomes.length failures)

/-- Delivers a notification to some targets. Without targets nothing is sent, and
nothing has to be prepared. -/
def publish (server : Server) (proxy : ProxySettings) (protocol : Protocol)
    (notification : Notification) (requests : List Request) (targets : List Target) :
    Attempt (List String) :=
  if targets.isEmpty then
    { requests, result := .ok [] }
  else
    match proxy.prepare with
    | .error error => { requests, result := .error error }
    | .ok () =>
        let (requests, outcomes) := deliverAll server protocol notification requests targets
        { requests, result := combine outcomes }

end BuildNotices
