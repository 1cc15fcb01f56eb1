import BuildNotices.Proofs.Delivery.Message
import BuildNotices.Proofs.Notifier.Message
import BuildNotices.Proofs.Variables.Reading
/-!
Calls that come to the same.

What a message by hand says in place of the settings could as well stand in the settings. And a
notification about a run could as well be sent by hand, as long as its template does not ask for
what only the category knows.
-/

namespace BuildNotices

open Text

/-! ### Overrides as settings -/

namespace NotifierSettings

/-- The settings that say themselves what a message would say in place of them. A token that is
given comes without the configured identifier of one. -/
def overriddenBy (settings : NotifierSettings) (overrides : Overrides) : NotifierSettings :=
  { settings with
    rooms := overrides.rooms.getD settings.rooms
    server := overrides.server.getD settings.server
    sender := overrides.sender.getD settings.sender
    protocol :=
      match overrides.newer with
      | some true => .v2
      | some false => .v1
      | none => settings.protocol
    failOnError := overrides.failOnError.getD settings.failOnError
    credentialId :=
      match overrides.credentialId, overrides.token with
      | some id, _ => some id
      | none, some _ => none
      | none, none => settings.credentialId
    token :=
      match overrides.token with
      | some token => some token
      | none => settings.token }

variable (settings : NotifierSettings) (overrides : Overrides)

theorem destinationUnder_nothing : settings.destinationUnder {} = settings.destination := rfl

theorem credentialId_overriddenBy :
    (settings.overriddenBy overrides).credentialId =
      (settings.destinationUnder overrides).credentialId := by
  unfold overriddenBy destinationUnder
  cases overrides.credentialId with
  | some id => rfl
  | none =>
      cases overrides.token with
      | some token => rfl
      | none => rfl

theorem token_overriddenBy :
    (settings.overriddenBy overrides).token = (settings.destinationUnder overrides).token := by
  unfold overriddenBy destinationUnder
  cases overrides.token with
  | some token => rfl
  | none => rfl

theorem protocol_overriddenBy :
    (settings.overriddenBy overrides).protocol =
      (settings.destinationUnder overrides).protocol := by
  unfold overriddenBy destinationUnder
  cases overrides.newer with
  | none => rfl
  | some newer =>
      cases newer with
      | true => rfl
      | false => rfl

theorem destination_overriddenBy :
    (settings.overriddenBy overrides).destination = settings.destinationUnder overrides := by
  unfold destination
  rw [credentialId_overriddenBy, token_overriddenBy, protocol_overriddenBy]
  rfl

end NotifierSettings

namespace Notifier

def overriddenBy (notifier : Notifier) (overrides : Overrides) : Notifier :=
  { notifier with settings := notifier.settings.overriddenBy overrides }

section Overrides

variable (notifier : Notifier) (moment : Moment) (message : AdHocMessage) (run : Option Run)

theorem compose_overriddenBy :
    (notifier.overriddenBy message.overrides).compose moment { message with overrides := {} } run =
      notifier.compose moment message run := rfl

/-- A message with overrides is sent like the message without them under settings that say the
same, and the same is reported. -/
theorem overrides_amount_to_settings (server : Server) (requests : List Request) :
    notifier.sendMessage server moment requests message run =
      (notifier.overriddenBy message.overrides).sendMessage server moment requests
        { message with overrides := {} } run := by
  have sameDestination : (notifier.overriddenBy message.overrides).settings.destinationUnder {} =
      notifier.settings.destinationUnder message.overrides := by
    rw [NotifierSettings.destinationUnder_nothing]
    exact NotifierSettings.destination_overriddenBy notifier.settings message.overrides
  unfold sendMessage
  dsimp only
  rw [sameDestination, compose_overriddenBy]
  rfl

end Overrides

end Notifier

/-! ### Notifications about runs by hand -/

/-- The message that somebody would send by hand in place of the notifications of a category. -/
def CategorySettings.byHand (settings : CategorySettings) : AdHocMessage where
  text := settings.template
  color := some settings.color
  notify := some settings.notify
  plainText := settings.plainText
  icon := settings.icon

namespace Variables

variable (bindings : Variables) (category : Category)

theorem value_forCategory {name : String} (notStatus : name ≠ ReservedName.status.text)
    (notListing : name ≠ ReservedName.printFullEnv.text) :
    (bindings.forCategory category).value name = bindings.value name := by
  rw [value, forCategory, Dictionary.get?_insert_of_ne notListing,
    Dictionary.get?_insert_of_ne notStatus, ← value]

end Variables

namespace Card

variable (bindings : Variables) (category : Category) (run : Option Run)

theorem count?_forCategory {name : ReservedName} (independent : name.dependsOnCategory = false) :
    count? (bindings.forCategory category) name = count? bindings name := by
  rw [count?, Variables.read?_forCategory independent, ← count?]

theorem countAttributes_forCategory :
    countAttributes (bindings.forCategory category) = countAttributes bindings := by
  have count (name : ReservedName) (independent : name.dependsOnCategory = false) :=
    count?_forCategory bindings category independent
  simp only [countAttributes, countAttribute, count .successTestCount rfl,
    count .failedTestCount rfl, count .skippedTestCount rfl, count .testCount rfl]

theorem reportUrl_forCategory :
    reportUrl run (bindings.forCategory category) = reportUrl run bindings := by
  rw [reportUrl, count?_forCategory bindings category rfl,
    Variables.value_forCategory bindings category (by decide) (by decide), ← reportUrl]

theorem attributesFor_forCategory :
    attributesFor run (bindings.forCategory category) = attributesFor run bindings := by
  rw [attributesFor, countAttributes_forCategory, reportUrl_forCategory, ← attributesFor]

theorem titleFor_forCategory :
    titleFor (bindings.forCategory category) = titleFor bindings := by
  rw [titleFor, Variables.value_forCategory bindings category (by decide) (by decide),
    Variables.value_forCategory bindings category (by decide) (by decide), ← titleFor]

end Card

/-- A card shows nothing of the category. -/
theorem CardBuilder.build_forCategory (builder : CardBuilder) (bindings : Variables)
    (category : Category) (id : String) (run : Option Run) (message : String)
    (icon : Option String) :
    builder.build id run (bindings.forCategory category) message icon =
      builder.build id run bindings message icon := by
  have address : (bindings.forCategory category).value ReservedName.url.text =
      bindings.value ReservedName.url.text :=
    Variables.value_forCategory bindings category (by decide) (by decide)
  unfold build
  rw [Card.attributesFor_forCategory, Card.titleFor_forCategory, address]

/-- A template that does not ask for what depends on the category. -/
structure Template.IsSilent (template : String) : Prop where
  status : ¬ RefersTo template ReservedName.status.text
  listing : ¬ RefersTo template ReservedName.printFullEnv.text

/-- The variables of the category are put over the others twice, and have no part in either. -/
theorem Template.message_of_isSilent {template : String} (silent : IsSilent template)
    (visible : allBlank template = false) (bindings : Variables) (category : Category) :
    message category template (bindings.forCategory category) = resolve template bindings := by
  have written : effective category template = template := by
    rw [effective, visible]
    rfl
  have agree : ∀ name, ¬ (name = ReservedName.status.text ∨
      name = ReservedName.printFullEnv.text) →
      ((bindings.forCategory category).forCategory category).value name = bindings.value name := by
    intro name other
    obtain ⟨notStatus, notListing⟩ := not_or.mp other
    rw [Variables.value_forCategory _ _ notStatus notListing,
      Variables.value_forCategory _ _ notStatus notListing]
  rw [message, written]
  refine resolve_congr agree (by decide) ?_
  rintro name (rfl | rfl)
  · exact silent.status
  · exact silent.listing

namespace Notifier

section ByHand

variable {notifier : Notifier} {category : Category} {settings : CategorySettings}

theorem prepare_eq_compose
    (enabled : notifier.settings.notifications.select category = some settings)
    (visible : allBlank settings.template = false) (silent : Template.IsSilent settings.template)
    (moment : Moment) (run : Run) :
    notifier.prepare moment run category =
      some (notifier.compose moment settings.byHand (some run)) := by
  have text : Template.message category settings.template
        (notifier.variablesFor moment run category) =
      Template.resolve settings.template
        (run.allVariables notifier.settings.buildServer moment.now) :=
    Template.message_of_isSilent silent visible _ category
  rw [prepare, enabled, Option.map_some]
  dsimp only
  rw [text, variablesFor, CardBuilder.build_forCategory]
  rfl

/-- A notification about a run is what the same message by hand would be: the same requests are
sent, and the same is reported. -/
theorem notify_eq_sendMessage_byHand
    (enabled : notifier.settings.notifications.select category = some settings)
    (visible : allBlank settings.template = false) (silent : Template.IsSilent settings.template)
    (server : Server) (moment : Moment) (requests : List Request) (run : Run) :
    notifier.notify server moment requests run category =
      notifier.sendMessage server moment requests settings.byHand (some run) := by
  have written : allBlank settings.byHand.text = false := visible
  unfold notify sendMessage
  rw [prepare_eq_compose enabled visible silent, written]
  rfl

end ByHand

/-- A run with test results, two rooms, and a server that breaks down behind the first one. -/
theorem notify_eq_sendMessage_of_failed_job :
    let notifier := ofTemplate "$\x7bJOB_DISPLAY_NAME\x7d is broken"
    let settings : CategorySettings :=
      { CategorySettings.builtIn .failure with template := "$\x7bJOB_DISPLAY_NAME\x7d is broken" }
    let run : Run := { jobName := "api", tests := some { total := 4, failed := 1 } }
    notifier.settings.notifications.select .failure = some settings ∧
      notifier.notify breakingServer default [] run .failure =
        notifier.sendMessage breakingServer default [] settings.byHand (some run) ∧
      (notifier.notify breakingServer default [] run .failure).requests.map
        (fun request => request.body.message?) = [some "api is broken", some "api is broken"] := by
  intro notifier settings run
  have silent : Template.IsSilent settings.template := ⟨by decide +kernel, by decide +kernel⟩
  have enabled : notifier.settings.notifications.select .failure = some settings := rfl
  have same := notify_eq_sendMessage_byHand enabled (by decide) silent breakingServer default [] run
  exact ⟨enabled, same, by decide +kernel⟩

end Notifier
end BuildNotices
