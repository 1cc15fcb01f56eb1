import BuildNotices.Notifier.AdHoc
import BuildNotices.Notifier.Event
/-!
The calls of a notifier that can send something.

A notification about a run and a message by hand differ in what they send, where to, and
under which policy. Once there is something to send, both deliver it in the same way, and
the policy changes only the result.
-/

namespace BuildNotices

open Text

inductive Call where
  | notify (run : Run) (category : Category)
  | send (message : AdHocMessage) (run : Option Run)

namespace Call

def issue (notifier : Notifier) (server : Server) (moment : Moment) (requests : List Request) :
    Call → Attempt (Option (List String))
  | .notify run category => notifier.notify server moment requests run category
  | .send message run => notifier.sendMessage server moment requests message run

def destination (settings : NotifierSettings) : Call → Destination
  | .notify _ _ => settings.destination
  | .send message _ => settings.destinationUnder message.overrides

def failOnError (settings : NotifierSettings) : Call → Bool
  | .notify _ _ => settings.failOnError
  | .send message _ => message.overrides.failOnError.getD settings.failOnError

/-- The category of a run is enabled, or the text of a message is not blank. -/
def ReachesDelivery (settings : NotifierSettings) : Call → Prop
  | .notify _ category => (settings.notifications.select category).isSome = true
  | .send message _ => allBlank message.text = false

def notification? (notifier : Notifier) (moment : Moment) : Call → Option Notification
  | .notify run category => notifier.prepare moment run category
  | .send message run =>
      if allBlank message.text then none else some (notifier.compose moment message run)

theorem reachesDelivery_iff (notifier : Notifier) (moment : Moment) (call : Call) :
    call.ReachesDelivery notifier.settings ↔
      ∃ notification, call.notification? notifier moment = some notification := by
  cases call with
  | notify run category =>
      simp only [ReachesDelivery, notification?, Notifier.prepare]
      cases notifier.settings.notifications.select category with
      | none => simp
      | some settings => simp
  | send message run =>
      by_cases blank : allBlank message.text = true
      · simp [ReachesDelivery, notification?, blank]
      · simp [ReachesDelivery, notification?, blank]

theorem requests_of_nothing {notifier : Notifier} {moment : Moment} {call : Call}
    (nothing : call.notification? notifier moment = none) (server : Server)
    (requests : List Request) :
    (call.issue notifier server moment requests).requests = requests := by
  cases call with
  | notify run category =>
      simp only [notification?] at nothing
      simp only [issue, Notifier.notify, nothing]
  | send message run =>
      by_cases blank : allBlank message.text = true
      · simp [issue, Notifier.sendMessage, blank]
      · simp [notification?, blank] at nothing

theorem issue_of_notification {notifier : Notifier} {moment : Moment} {call : Call}
    {notification : Notification}
    (found : call.notification? notifier moment = some notification) (server : Server)
    (requests : List Request) :
    call.issue notifier server moment requests =
      (notifier.deliver server requests (call.destination notifier.settings)
        notification).mapResult
          fun result => underPolicy (call.failOnError notifier.settings) (result.map .some) := by
  cases call with
  | notify run category =>
      simp only [notification?] at found
      simp only [issue, Notifier.notify, found]
      rfl
  | send message run =>
      by_cases blank : allBlank message.text = true
      · simp [notification?, blank] at found
      · simp only [notification?, if_neg blank, Option.some.injEq] at found
        simp only [issue, Notifier.sendMessage, if_neg blank, ← found]
        rfl

end Call
end BuildNotices
