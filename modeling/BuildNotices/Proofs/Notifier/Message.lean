import BuildNotices.Notifier.Event
import BuildNotices.Proofs.Notifier.Policy
import BuildNotices.Proofs.Template.Piece
import BuildNotices.Proofs.Variables.Listing
import BuildNotices.Proofs.Variables.Reserved
/-!
The variables of a message and of its card.

The variables that depend on the category are put over the collected ones twice for a message,
and once for its card. The second time changes the listing of all variables and nothing else:
it now lists itself. So a message is made of the variables of its card exactly when its
template does not refer to the listing.
-/

namespace BuildNotices

open Text

namespace Text.Dictionary

theorem insert_eq_self {α : Type} {dictionary : Dictionary α} {name : String} {value : α}
    (found : dictionary.get? name = some value) : dictionary.insert name value = dictionary := by
  apply ext_get?
  intro other
  rw [get?_insert]
  by_cases same : other = name
  · rw [if_pos same, same, found]
  · rw [if_neg same]

end Text.Dictionary

namespace Variables

variable (bindings : Variables) (category : Category)

theorem get?_status_forCategory :
    (bindings.forCategory category).get? ReservedName.status.text = some category.status := by
  rw [forCategory, Dictionary.get?_insert_of_ne (by decide), Dictionary.get?_insert_self]

/-- The second time the status is there already. -/
theorem forCategory_forCategory :
    (bindings.forCategory category).forCategory category =
      (bindings.forCategory category).insert ReservedName.printFullEnv.text
        (listing (bindings.forCategory category)) := by
  rw [forCategory, Dictionary.insert_eq_self (get?_status_forCategory bindings category)]

theorem value_forCategory_forCategory {name : String}
    (other : name ≠ ReservedName.printFullEnv.text) :
    (bindings.forCategory category).value name =
      ((bindings.forCategory category).forCategory category).value name := by
  rw [forCategory_forCategory, value, value, Dictionary.get?_insert_of_ne other]

/-- Where nothing had the name of the listing, the second listing has a line more. -/
theorem length_listing_forCategory
    (fresh : bindings.get? ReservedName.printFullEnv.text = none) (written : Char → List Char)
    (visible : written '=' ≠ []) :
    (((bindings.forCategory category).value ReservedName.printFullEnv.text).toList.flatMap
        written).length <
      ((((bindings.forCategory category).forCategory category).value
        ReservedName.printFullEnv.text).toList.flatMap written).length := by
  have first : (bindings.forCategory category).value ReservedName.printFullEnv.text =
      listing (bindings.insert ReservedName.status.text category.status) := by
    rw [forCategory, value, Dictionary.get?_insert_self, Option.getD_some]
  have second : ((bindings.forCategory category).forCategory category).value
      ReservedName.printFullEnv.text = listing (bindings.forCategory category) := by
    rw [forCategory_forCategory, value, Dictionary.get?_insert_self, Option.getD_some]
  rw [first, second]
  refine length_listing_insert ?_ _ visible
  rw [Dictionary.get?_insert_of_ne (by decide), fresh]

end Variables

theorem Run.get?_printFullEnv_allVariables (run : Run) (server : Option String)
    (now : Instant) :
    (run.allVariables server now).get? ReservedName.printFullEnv.text = none := by
  have read := read?_allVariables run server now .printFullEnv
  rw [lastUnder?_ownPairs_of_dependent rfl] at read
  exact read

theorem Template.resolve_forCategory_iff {bindings : Variables}
    (fresh : bindings.get? ReservedName.printFullEnv.text = none) (category : Category)
    (template : String) :
    resolve template ((bindings.forCategory category).forCategory category) =
        resolve template (bindings.forCategory category) ↔
      ¬ RefersTo template ReservedName.printFullEnv.text := by
  have longer := Variables.length_listing_forCategory bindings category fresh
    (fun c => [c]) (List.cons_ne_nil _ _)
  have longerEscaped := Variables.length_listing_forCategory bindings category fresh
    Html.escapeChar (by decide)
  simp only [List.flatMap_singleton', String.length_toList] at longer
  rw [eq_comm]
  refine resolve_eq_iff_of_longer ?_ (by decide) (by decide) longer ?_ template
  · intro other different
    exact Variables.value_forCategory_forCategory bindings category different
  · simpa only [Html.escape, String.length_ofList] using longerEscaped

namespace Notifier

theorem message_variablesFor_iff (notifier : Notifier) (moment : Moment) (run : Run)
    (category : Category) (template : String) :
    Template.message category template (notifier.variablesFor moment run category) =
        Template.resolve (Template.effective category template)
          (notifier.variablesFor moment run category) ↔
      ¬ Template.RefersTo (Template.effective category template)
        ReservedName.printFullEnv.text :=
  Template.resolve_forCategory_iff (Run.get?_printFullEnv_allVariables run _ _) category _

/-- The card of a notification is made of the collected variables, with the status over them
and with the listing of both, which does not list itself. The message is made of these as well,
but with a listing that lists them all. Both are the same exactly when the template does not
refer to the listing. -/
theorem message_sees_variables_of_card (notifier : Notifier) (moment : Moment) (run : Run)
    (category : Category) {settings : CategorySettings}
    (enabled : notifier.settings.notifications.select category = some settings) :
    let collected := run.allVariables notifier.settings.buildServer moment.now
    let listed : Variables := collected.insert ReservedName.status.text category.status
    let bindings : Variables :=
      listed.insert ReservedName.printFullEnv.text (Variables.listing listed)
    let relisted : Variables :=
      bindings.insert ReservedName.printFullEnv.text (Variables.listing bindings)
    let template := Template.effective category settings.template
    listed.contains ReservedName.printFullEnv.text = false ∧
      ∃ notification, notifier.prepare moment run category = some notification ∧
        notification.card = notifier.cardBuilder.build moment.cardId (some run) bindings
          notification.message settings.icon ∧
        notification.message = Template.resolve template relisted ∧
        (notification.message = Template.resolve template bindings ↔
          ¬ Template.RefersTo template ReservedName.printFullEnv.text) := by
  intro collected listed bindings relisted template
  have fresh : collected.get? ReservedName.printFullEnv.text = none :=
    Run.get?_printFullEnv_allVariables run notifier.settings.buildServer moment.now
  have twice : bindings.forCategory category = relisted :=
    Variables.forCategory_forCategory collected category
  have message : Template.message category settings.template bindings =
      Template.resolve template relisted := by
    rw [Template.message, twice]
  refine ⟨?_, _, by rw [prepare, enabled, Option.map_some], rfl, message, ?_⟩
  · rw [Dictionary.contains_eq_isSome, Dictionary.get?_insert_of_ne (by decide), fresh]
    rfl
  · exact notifier.message_variablesFor_iff moment run category settings.template

def ofTemplate (template : String) : Notifier :=
  { twoRoomNotifier with
    settings :=
      { twoRoomNotifier.settings with
        notifications :=
          NotificationTable.builtIn.insert { CategorySettings.builtIn .failure with template } } }

theorem message_sees_status_of_card :
    (ofTemplate "$\x7bSTATUS\x7d!").settings.notifications.select .failure =
        some { CategorySettings.builtIn .failure with template := "$\x7bSTATUS\x7d!" } ∧
      ∃ notification,
        (ofTemplate "$\x7bSTATUS\x7d!").prepare default {} .failure = some notification ∧
          notification.message = Template.resolve "$\x7bSTATUS\x7d!"
            ((ofTemplate "$\x7bSTATUS\x7d!").variablesFor default {} .failure) ∧
          notification.message = "FAILURE!" := by
  obtain ⟨_, notification, prepared, _, _, agrees⟩ :=
    message_sees_variables_of_card (ofTemplate "$\x7bSTATUS\x7d!") default {} .failure rfl
  have same := agrees.mpr (by decide +kernel)
  exact ⟨rfl, notification, prepared, same, same.trans (by decide +kernel)⟩

/-- A template that is the listing alone. -/
theorem message_lists_its_own_listing :
    ∃ notification,
      (ofTemplate "$\x7bPRINT_FULL_ENV\x7d").prepare default {} .failure = some notification ∧
        notification.message ≠
          Template.resolve (Template.effective .failure "$\x7bPRINT_FULL_ENV\x7d")
            ((ofTemplate "$\x7bPRINT_FULL_ENV\x7d").variablesFor default {} .failure) := by
  have enabled :
      (ofTemplate "$\x7bPRINT_FULL_ENV\x7d").settings.notifications.select .failure =
        some { CategorySettings.builtIn .failure with template := "$\x7bPRINT_FULL_ENV\x7d" } :=
    rfl
  refine ⟨_, by rw [prepare, enabled, Option.map_some], ?_⟩
  intro same
  have refers : Template.RefersTo
      (Template.effective .failure "$\x7bPRINT_FULL_ENV\x7d") ReservedName.printFullEnv.text := by
    decide +kernel
  exact (message_variablesFor_iff _ _ _ _ _).mp same refers

end Notifier
end BuildNotices
