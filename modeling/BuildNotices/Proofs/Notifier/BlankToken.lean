import BuildNotices.Proofs.Notifier.Policy
/-!
Blank tokens.

A token that is given with a message takes the place of the configured identifier and of the
configured token before anybody looks whether it is blank. Only then is it dropped. So a message
with a blank token is delivered like one without a token, but by a notifier that has neither an
identifier nor a token of its own.
-/

namespace BuildNotices

open Text

namespace AdHocMessage

def withoutToken (message : AdHocMessage) : AdHocMessage :=
  { message with overrides := { message.overrides with token := none } }

def HasBlankToken (message : AdHocMessage) : Prop :=
  ∃ token, message.overrides.token = some token ∧ allBlank token = true

end AdHocMessage

namespace Notifier

def withTokens (notifier : Notifier) (token credentialId : Option String) : Notifier :=
  { notifier with settings := { notifier.settings with token, credentialId } }

def tokenFor (notifier : Notifier) (message : AdHocMessage) : Except NoticeError String :=
  let destination := notifier.settings.destinationUnder message.overrides
  resolveToken notifier.credentials destination.credentialId destination.token destination.server

/-- Nothing is stored under the identifier of the message itself, and the settings would provide
a token if the message did not bring one. -/
structure Shadows (notifier : Notifier) (message : AdHocMessage) : Prop where
  unstored : storedToken? notifier.credentials message.overrides.credentialId
    (notifier.settings.destinationUnder message.overrides).server = none
  provided : ∃ token, notifier.tokenFor message.withoutToken = .ok token

/-! ### The token of a message -/

theorem resolveToken_of_blank {token : String} (blank : allBlank token = true)
    (store : CredentialStore) (credentialId : Option String) (server : String) :
    resolveToken store credentialId (some token) server =
      resolveToken store credentialId none server := by
  rw [resolveToken, Option.bind_some, nonBlank?_eq_none_iff.mpr blank, resolveToken,
    Option.bind_none]

theorem resolveToken_of_stored {store : CredentialStore} {credentialId : Option String}
    {server token : String} (stored : storedToken? store credentialId server = some token)
    (explicit : Option String) : resolveToken store credentialId explicit server = .ok token := by
  rw [resolveToken, stored]
  rfl

theorem resolveToken_of_unstored {store : CredentialStore} {credentialId : Option String}
    {server : String} (unstored : storedToken? store credentialId server = none) :
    resolveToken store credentialId none server = .error (.credentialMissing server) := by
  rw [resolveToken, unstored]
  rfl

theorem eq_credentialMissing_of_resolveToken {store : CredentialStore}
    {credentialId explicit : Option String} {server : String} {error : NoticeError}
    (failed : resolveToken store credentialId explicit server = .error error) :
    error = .credentialMissing server := by
  unfold resolveToken at failed
  split at failed
  · cases failed
  · cases failed
    rfl

section Token

variable {notifier : Notifier} {message : AdHocMessage}

/-- The given token displaces the configured identifier, and then it is of no use itself. -/
theorem tokenFor_of_blank (blank : message.HasBlankToken) :
    notifier.tokenFor message =
      resolveToken notifier.credentials message.overrides.credentialId none
        (notifier.settings.destinationUnder message.overrides).server := by
  obtain ⟨token, given, empty⟩ := blank
  rw [← resolveToken_of_blank empty, tokenFor, NotifierSettings.destinationUnder, given]
  cases message.overrides.credentialId with
  | none => rfl
  | some id => rfl

/-- Where the settings have nothing to displace, the blank token changes nothing. -/
theorem tokenFor_withTokens_none (blank : message.HasBlankToken) :
    (notifier.withTokens none none).tokenFor message.withoutToken = notifier.tokenFor message := by
  rw [tokenFor_of_blank blank, tokenFor, NotifierSettings.destinationUnder]
  cases identified : message.overrides.credentialId with
  | none => simp only [AdHocMessage.withoutToken, identified]; rfl
  | some id => simp only [AdHocMessage.withoutToken, identified]; rfl

/-- An identifier of the message itself goes before the configured one, given token or not. -/
theorem tokenFor_withoutToken_of_stored {token : String}
    (stored : storedToken? notifier.credentials message.overrides.credentialId
      (notifier.settings.destinationUnder message.overrides).server = some token) :
    notifier.tokenFor message.withoutToken = .ok token := by
  cases identified : message.overrides.credentialId with
  | none =>
      rw [identified] at stored
      cases stored
  | some id =>
      rw [identified] at stored
      have same : (notifier.settings.destinationUnder message.withoutToken.overrides).credentialId =
          some id := by
        simp [AdHocMessage.withoutToken, NotifierSettings.destinationUnder, identified]
      rw [tokenFor, same]
      exact resolveToken_of_stored stored _

theorem tokenFor_withoutToken (blank : message.HasBlankToken)
    (apparent : ¬ notifier.Shadows message) :
    notifier.tokenFor message.withoutToken = notifier.tokenFor message := by
  rw [tokenFor_of_blank blank]
  cases stored : storedToken? notifier.credentials message.overrides.credentialId
      (notifier.settings.destinationUnder message.overrides).server with
  | some token => rw [tokenFor_withoutToken_of_stored stored, resolveToken_of_stored stored]
  | none =>
      rw [resolveToken_of_unstored stored]
      cases provided : notifier.tokenFor message.withoutToken with
      | ok token => exact absurd ⟨stored, token, provided⟩ apparent
      | error error => rw [eq_credentialMissing_of_resolveToken provided]; rfl

theorem tokenFor_of_shadows (blank : message.HasBlankToken) (shadows : notifier.Shadows message) :
    notifier.tokenFor message =
      .error (.credentialMissing
        (notifier.settings.destinationUnder message.overrides).server) := by
  rw [tokenFor_of_blank blank, resolveToken_of_unstored shadows.unstored]

end Token

/-! ### Sending with a token or without -/

section Sending

variable (notifier : Notifier) (server : Server) (moment : Moment) (requests : List Request)
  (message : AdHocMessage) (run : Option Run)

/-- Of all the tokens and identifiers that are around, only the resolved token matters. -/
theorem sendMessage_withoutToken {token credentialId : Option String}
    (resolved : (notifier.withTokens token credentialId).tokenFor message.withoutToken =
      notifier.tokenFor message) :
    (notifier.withTokens token credentialId).sendMessage server moment requests
        message.withoutToken run =
      notifier.sendMessage server moment requests message run := by
  unfold sendMessage
  by_cases blank : allBlank message.text = true
  · rw [if_pos blank, if_pos (by exact blank)]
    rfl
  · rw [if_neg blank, if_neg (by exact blank)]
    unfold deliver
    unfold tokenFor at resolved
    rw [resolved]
    rfl

theorem sendMessage_withoutToken_of_harmless (blank : message.HasBlankToken)
    (harmless : allBlank message.text = true ∨
      ¬ (notifier.settings.destinationUnder message.overrides).HasRoom ∨
        ¬ notifier.Shadows message) :
    notifier.sendMessage server moment requests message run =
      notifier.sendMessage server moment requests message.withoutToken run := by
  rcases harmless with empty | roomless | apparent
  · rw [sendMessage, if_pos empty, sendMessage, if_pos (by exact empty)]
    rfl
  · rw [sendMessage, deliver_of_roomless notifier server requests _ _ roomless, sendMessage,
      deliver_of_roomless notifier server requests _ _ (by exact roomless)]
    rfl
  · have same : (notifier.withTokens notifier.settings.token
        notifier.settings.credentialId).tokenFor message.withoutToken =
          notifier.tokenFor message := tokenFor_withoutToken blank apparent
    exact (sendMessage_withoutToken notifier server moment requests message run same).symm

variable (visible : allBlank message.text = false)
  (room : (notifier.settings.destinationUnder message.overrides).HasRoom)

include visible room

theorem sendMessage_of_unresolved {error : NoticeError}
    (failed : notifier.tokenFor message = .error error) :
    notifier.sendMessage server moment requests message run =
      { requests
        result := underPolicy
          (message.overrides.failOnError.getD notifier.settings.failOnError)
          (.error error) } := by
  rw [sendMessage, visible,
    deliver_of_unresolved notifier server requests _ _ room failed]
  rfl

theorem sendMessage_of_resolved {token : String}
    (resolved : notifier.tokenFor message = .ok token) :
    notifier.sendMessage server moment requests message run =
      (publish server notifier.settings.proxy
        (notifier.settings.destinationUnder message.overrides).protocol
        (notifier.compose moment message run) requests
        (roomTargets (notifier.settings.destinationUnder message.overrides).rooms
          (notifier.settings.destinationUnder message.overrides).server token
          (notifier.settings.destinationUnder message.overrides).sender)).mapResult
        fun result => underPolicy
          (message.overrides.failOnError.getD notifier.settings.failOnError)
          (result.map some) := by
  rw [sendMessage, visible,
    deliver_of_resolved notifier server requests _ _ room resolved]
  rfl

end Sending

/-- What is published fails for other reasons than a missing token. -/
theorem publish_ne_credentialMissing (server : Server) (proxy : ProxySettings)
    (protocol : Protocol) (notification : Notification) (requests : List Request)
    (targets : List Target) (host : String) :
    (publish server proxy protocol notification requests targets).result ≠
      .error (.credentialMissing host) := by
  unfold publish
  split
  · intro failed
    cases failed
  · cases prepared : proxy.prepare with
    | error error =>
        intro failed
        cases failed
        cases proxy with
        | environment => cases prepared
        | direct => cases prepared
        | manual manual =>
            simp only [ProxySettings.prepare] at prepared
            split at prepared <;> cases prepared
    | ok =>
        dsimp only
        unfold combine
        split
        · intro failed
          cases failed
        · intro failed
          cases failed

theorem lenient_of_same_report {failOnError : Bool} {host : String}
    {published : Except NoticeError (List String)}
    (other : published ≠ .error (.credentialMissing host))
    (same : underPolicy failOnError (.error (.credentialMissing host)) =
      underPolicy failOnError (published.map some)) :
    failOnError = false ∧ underPolicy failOnError (published.map some) = .ok none := by
  cases failOnError with
  | false =>
      rw [← same]
      exact ⟨rfl, rfl⟩
  | true =>
      rw [underPolicy_true, underPolicy_true] at same
      cases published with
      | ok rooms => cases same
      | error error =>
          cases same
          exact absurd rfl other

end Notifier

/-- A message with a blank token is sent as if the settings had no token and no identifier of one.
It comes to what it comes to without that token exactly when there is nothing to send, no room to
send it to, nothing in the settings that the blank token hides, or a lenient policy under which the
other message comes to nothing as well. Otherwise it lacks a token, and nothing is sent, although
without the blank token the message is published with a usable one. -/
theorem blank_token_hides_settings (notifier : Notifier) (server : Server) (moment : Moment)
    (requests : List Request) (message : AdHocMessage) (run : Option Run)
    (blank : message.HasBlankToken) :
    let destination := notifier.settings.destinationUnder message.overrides
    let failOnError := message.overrides.failOnError.getD notifier.settings.failOnError
    let attempt := notifier.sendMessage server moment requests message run
    let tokenless := notifier.sendMessage server moment requests message.withoutToken run
    attempt = (notifier.withTokens none none).sendMessage server moment requests
        message.withoutToken run ∧
      (attempt = tokenless ↔
        allBlank message.text = true ∨ ¬ destination.HasRoom ∨ ¬ notifier.Shadows message ∨
          failOnError = false ∧ tokenless = { requests, result := .ok none }) ∧
      (allBlank message.text = false → destination.HasRoom → notifier.Shadows message →
        attempt =
            { requests
              result := underPolicy failOnError
                (.error (.credentialMissing destination.server)) } ∧
          ∃ token, allBlank token = false ∧
            tokenless =
              (publish server notifier.settings.proxy destination.protocol
                (notifier.compose moment message run) requests
                (roomTargets destination.rooms destination.server token
                  destination.sender)).mapResult
                fun result => underPolicy failOnError (result.map some)) := by
  intro destination failOnError attempt tokenless
  have apart (visible : allBlank message.text = false) (room : destination.HasRoom)
      (shadows : notifier.Shadows message) :
      attempt =
          { requests
            result := underPolicy failOnError
              (.error (.credentialMissing destination.server)) } ∧
        ∃ token, allBlank token = false ∧
          tokenless =
            (publish server notifier.settings.proxy destination.protocol
              (notifier.compose moment message run) requests
              (roomTargets destination.rooms destination.server token
                destination.sender)).mapResult
              fun result => underPolicy failOnError (result.map some) := by
    obtain ⟨token, provided⟩ := shadows.provided
    exact ⟨notifier.sendMessage_of_unresolved server moment requests message run visible room
        (Notifier.tokenFor_of_shadows blank shadows),
      token, allBlank_of_resolveToken provided,
      notifier.sendMessage_of_resolved server moment requests message.withoutToken run visible room
        provided⟩
  refine ⟨?_, ?_, apart⟩
  · exact (notifier.sendMessage_withoutToken server moment requests message run
      (Notifier.tokenFor_withTokens_none blank)).symm
  · have harmless :=
      notifier.sendMessage_withoutToken_of_harmless server moment requests message run blank
    by_cases empty : allBlank message.text = true
    · exact iff_of_true (harmless (Or.inl empty)) (Or.inl empty)
    by_cases room : destination.HasRoom
    · by_cases shadows : notifier.Shadows message
      · obtain ⟨missing, token, _, published⟩ :=
          apart (Bool.eq_false_iff.mpr empty) room shadows
        constructor
        · intro agree
          rw [missing, published] at agree
          obtain ⟨nothing, same⟩ := Attempt.mk.inj agree
          obtain ⟨lenient, silent⟩ := Notifier.lenient_of_same_report
            (Notifier.publish_ne_credentialMissing _ _ _ _ _ _ _) same
          refine Or.inr (Or.inr (Or.inr ⟨lenient, ?_⟩))
          rw [published, Attempt.mapResult, silent, ← nothing]
        · rintro (blankText | roomless | apparent | ⟨lenient, nothing⟩)
          · exact absurd blankText empty
          · exact absurd room roomless
          · exact absurd shadows apparent
          · rw [missing, nothing, lenient]
            rfl
      · exact iff_of_true (harmless (Or.inr (Or.inr shadows))) (Or.inr (Or.inr (Or.inl shadows)))
    · exact iff_of_true (harmless (Or.inr (Or.inl room))) (Or.inr (Or.inl room))

/-- A greeting for one room, with a token that is a single blank. -/
def blankTokenGreeting : AdHocMessage where
  text := "hi"
  overrides := { rooms := some "ops", token := some " ", failOnError := some true }

theorem blank_token_hides_the_secret :
    blankTokenGreeting.HasBlankToken ∧
      twoRoomNotifier.sendMessage breakingServer default [] blankTokenGreeting none =
        { requests := [], result := .error (.credentialMissing "http://chat.local") } := by
  have blank : blankTokenGreeting.HasBlankToken := ⟨" ", rfl, by decide⟩
  have shadows : twoRoomNotifier.Shadows blankTokenGreeting := ⟨rfl, "secret", rfl⟩
  exact ⟨blank, ((blank_token_hides_settings twoRoomNotifier breakingServer default []
    blankTokenGreeting none blank).2.2 (by decide) ⟨"ops".toList, by decide, by decide⟩
      shadows).1⟩

/-- Without its token the greeting is posted with the token of the settings. -/
theorem greeting_is_lost_to_a_blank_token :
    let attempt := twoRoomNotifier.sendMessage breakingServer default [] blankTokenGreeting none
    let tokenless :=
      twoRoomNotifier.sendMessage breakingServer default [] blankTokenGreeting.withoutToken none
    attempt.requests.length = 0 ∧ attempt.result.toOption = none ∧
      tokenless.requests.map Request.bearer = [some "secret"] ∧
        tokenless.result.toOption = some (some ["ops"]) := by
  decide +kernel

end BuildNotices
