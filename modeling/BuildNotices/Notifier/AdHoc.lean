import BuildNotices.Notifier.Basic
import BuildNotices.Template
import BuildNotices.Variables.Collect
/-!
Messages that somebody sends by hand.

Such a message may refer to a run, and it may override where it goes and what a failure
means. A message that is written blank is not sent.
-/

namespace BuildNotices

structure Overrides where
  rooms : Option String := none
  server : Option String := none
  token : Option String := none
  credentialId : Option String := none
  /-- Whether the newer protocol is spoken. -/
  newer : Option Bool := none
  sender : Option String := none
  failOnError : Option Bool := none
deriving Repr, DecidableEq, Inhabited

structure AdHocMessage where
  text : String := ""
  color : Option Color := none
  /-- Whether the rooms are alerted; if nothing is said, the color decides. -/
  notify : Option Bool := none
  plainText : Bool := false
  icon : Option String := none
  overrides : Overrides := {}
deriving Repr, DecidableEq, Inhabited

/-- The destination of the settings under overrides. A token that is given replaces the
configured identifier of one, unless an identifier is given too. -/
def NotifierSettings.destinationUnder (settings : NotifierSettings) (overrides : Overrides) :
    Destination where
  rooms := overrides.rooms.getD settings.rooms
  server := overrides.server.getD settings.server
  credentialId :=
    overrides.credentialId <|>
      if overrides.token.isSome then none else settings.credentialId
  token := overrides.token <|> settings.token
  sender := overrides.sender.getD settings.sender
  protocol := (overrides.newer.map Protocol.ofNewer).getD settings.protocol

namespace Notifier

def compose (notifier : Notifier) (moment : Moment) (message : AdHocMessage)
    (run : Option Run) : Notification :=
  let bindings :=
    match run with
    | some run => run.allVariables notifier.settings.buildServer moment.now
    | none => .empty
  let text := Template.resolve message.text bindings
  let color := message.color.getD .gray
  { Notification.ofColor text color with
    notify := message.notify.getD (Notification.ofColor text color).notify
    format := .ofPlainText message.plainText
    card := notifier.cardBuilder.build moment.cardId run bindings text message.icon }

def sendMessage (notifier : Notifier) (server : Server) (moment : Moment)
    (requests : List Request) (message : AdHocMessage) (run : Option Run) :
    Attempt (Option (List String)) :=
  let failOnError := message.overrides.failOnError.getD notifier.settings.failOnError
  -- The text is tested as it was given, not as it is resolved.
  if Text.allBlank message.text then
    { requests, result := underPolicy failOnError (.error .messageRequired) }
  else
    let attempt := notifier.deliver server requests
      (notifier.settings.destinationUnder message.overrides)
      (notifier.compose moment message run)
    attempt.mapResult fun result => underPolicy failOnError (result.map some)

end Notifier
end BuildNotices
