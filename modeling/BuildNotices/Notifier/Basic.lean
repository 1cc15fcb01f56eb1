import BuildNotices.Config.Basic
import BuildNotices.Credentials
import BuildNotices.Delivery.Publish
/-!
The notifier and how it delivers.

A notifier is made of settings, a builder of cards, and a store of tokens. What it sends
goes to a destination, and its policy on failures decides what a failure to send means to
the caller: nothing, or an error. A run that belongs to no category is always an error.
-/

namespace BuildNotices

structure NotifierSettings where
  server : String
  rooms : String
  token : Option String
  credentialId : Option String
  sender : String
  protocol : Protocol
  timeoutMilliseconds : Nat
  proxy : ProxySettings
  failOnError : Bool
  buildServer : Option String
  notifications : NotificationTable

def NotifierSettings.ofConfig (config : Config) : Except NoticeError NotifierSettings := do
  let notifications ← config.table
  return {
    server := config.chat.server
    rooms := config.chat.rooms
    token := config.chat.token
    credentialId := config.chat.credentialId
    sender := config.chat.sender
    protocol := config.chat.protocol
    timeoutMilliseconds := config.chat.timeoutMilliseconds
    proxy := config.proxy
    failOnError := config.chat.failOnError
    buildServer := config.chat.buildServer
    notifications }

structure Notifier where
  settings : NotifierSettings
  cardBuilder : CardBuilder
  credentials : CredentialStore

def Notifier.ofConfig (config : Config) : Except NoticeError Notifier := do
  let settings ← NotifierSettings.ofConfig config
  return {
    settings
    cardBuilder := .named config.chat.cardBuilder
    credentials := .ofTable config.credentials }

structure Moment where
  now : Instant
  cardId : String
deriving Repr, Inhabited

/-! ### Delivery -/

structure Destination where
  rooms : String
  server : String
  credentialId : Option String
  token : Option String
  sender : String
  protocol : Protocol
deriving Repr, DecidableEq

def NotifierSettings.destination (settings : NotifierSettings) : Destination where
  rooms := settings.rooms
  server := settings.server
  credentialId := settings.credentialId
  token := settings.token
  sender := settings.sender
  protocol := settings.protocol

/-- Delivers a notification. A token is needed only when there are rooms; without one
nothing is sent. -/
def Notifier.deliver (notifier : Notifier) (server : Server) (requests : List Request)
    (destination : Destination) (notification : Notification) : Attempt (List String) :=
  let publishTo := publish server notifier.settings.proxy destination.protocol notification
    requests
  let targets (token : String) : List Target :=
    roomTargets destination.rooms destination.server token destination.sender
  -- The token has no part in whether there are targets.
  if (targets "").isEmpty then
    publishTo []
  else
    match resolveToken notifier.credentials destination.credentialId destination.token
      destination.server with
    | .error error => { requests, result := .error error }
    | .ok token => publishTo (targets token)

/-! ### The policy on failures -/

def NoticeError.isAlwaysReported : NoticeError → Bool
  | .unclassifiable _ => true
  | _ => false

/-- The result that a caller sees. Without failing on errors, an error means that nothing
was sent. -/
def underPolicy {α : Type} (failOnError : Bool) (result : Except NoticeError (Option α)) :
    Except NoticeError (Option α) :=
  match result with
  | .ok value => .ok value
  | .error error =>
      if failOnError || error.isAlwaysReported then .error error else .ok none

end BuildNotices
