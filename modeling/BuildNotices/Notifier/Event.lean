import BuildNotices.Classification
import BuildNotices.Notifier.Basic
import BuildNotices.Template
import BuildNotices.Variables.Collect
/-!
Notifications about runs.

When a run starts or ends, its category decides whether anything is sent and how it
looks. The message comes from the template of the category and the variables of the run,
and the card from the same variables.
-/

namespace BuildNotices
namespace Notifier

def variablesFor (notifier : Notifier) (moment : Moment) (run : Run) (category : Category) :
    Variables :=
  Variables.forCategory (run.allVariables notifier.settings.buildServer moment.now) category

/-- The notification about a run; none when its category is disabled. -/
def prepare (notifier : Notifier) (moment : Moment) (run : Run) (category : Category) :
    Option Notification :=
  (notifier.settings.notifications.select category).map fun settings =>
    let bindings := notifier.variablesFor moment run category
    let message := Template.message category settings.template bindings
    { message
      color := settings.color
      notify := settings.notify
      format := settings.format
      card := notifier.cardBuilder.build moment.cardId (some run) bindings message
        settings.icon }

def notify (notifier : Notifier) (server : Server) (moment : Moment) (requests : List Request)
    (run : Run) (category : Category) : Attempt (Option (List String)) :=
  match notifier.prepare moment run category with
  | none => { requests, result := .ok none }
  | some notification =>
      let attempt :=
        notifier.deliver server requests notifier.settings.destination notification
      attempt.mapResult fun result =>
        underPolicy notifier.settings.failOnError (result.map some)

def onStarted (notifier : Notifier) (server : Server) (moment : Moment)
    (requests : List Request) (run : Run) : Attempt Unit :=
  (notifier.notify server moment requests run .started).mapResult
    fun result => result.map fun _ => ()

def onCompleted (notifier : Notifier) (server : Server) (moment : Moment)
    (requests : List Request) (history : History) : Attempt Unit :=
  match history.classify with
  | .error error => { requests, result := .error error }
  | .ok category =>
      (notifier.notify server moment requests history.latest category).mapResult
        fun result => result.map fun _ => ()

end Notifier
end BuildNotices
