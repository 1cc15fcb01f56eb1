import BuildNotices.Proofs.Delivery.Address
/-!
Forms and addresses of the older protocol.

The texts of a target and a notification are escaped where they are put into a form or a query.
So a form is read back as its five fields, and the query of the address as the pairs of the
server with the token behind them, whatever marks the texts hold.
-/

namespace BuildNotices
namespace V1

open Url

theorem endpoint_eq_ok {server : String} {base : Url} (accepted : serverUrl server = .ok base)
    (names : List String) :
    ∃ url, endpoint base names = .ok url ∧ url.scheme = base.scheme ∧
      url.authority = base.authority ∧ url.fragment = base.fragment := by
  obtain ⟨segments, path, _⟩ := V2.exists_segments_of_serverUrl accepted
  unfold endpoint append?
  rw [path]
  exact ⟨_, rfl, rfl, rfl, rfl⟩

theorem address_of_endpoint {target : Target} {base url : Url}
    (accepted : serverUrl target.server = .ok base)
    (built : endpoint base ["v1", "rooms", "message"] = .ok url) :
    address target = .ok (url.appendQuery ("auth_token", target.token)) := by
  unfold address
  rw [accepted]
  change endpoint base ["v1", "rooms", "message"] >>= _ = _
  rw [built]
  rfl

theorem make_eq_ok {target : Target} {notification : Notification} {request : Request}
    (made : Request.make .v1 target notification = .ok request) :
    address target = .ok request.url ∧ request.body = .form (form target notification) := by
  obtain ⟨url, addressed, rest⟩ := exists_of_bind_eq_ok made
  split at rest
  next =>
    cases rest
    exact ⟨addressed, rfl⟩
  next => cases rest

/-- A form is read back as the five fields with their whole texts. The address is the URL of the
server with the token as one more pair of the query, and no pair of the server is lost. Requests
are sent with this address and this form. -/
theorem texts_stay_in_their_fields {target : Target} {base : Url}
    (accepted : serverUrl target.server = .ok base) (notification : Notification) :
    formDecode (Body.form (form target notification)).text.toList =
      [ (some "from", some target.sender),
        (some "room_id", some target.room),
        (some "message", some notification.message),
        (some "color", some notification.color.name),
        (some "notify", some (if notification.notify then "1" else "0")) ] ∧
    ∃ url, address target = .ok url ∧
      url.queryPairs = base.queryPairs ++ [(some "auth_token", some target.token)] ∧
      url.scheme = base.scheme ∧ url.authority = base.authority ∧
      url.fragment = base.fragment ∧
      ∀ request, Request.make .v1 target notification = .ok request →
        request.url = url ∧ request.body = .form (form target notification) := by
  obtain ⟨below, built, scheme, authority, fragment⟩ :=
    endpoint_eq_ok accepted ["v1", "rooms", "message"]
  have found := address_of_endpoint accepted built
  refine ⟨formDecode_formEncode _, _, found, ?_, scheme, authority, fragment, ?_⟩
  · rw [queryPairs_appendQuery, queryPairs_of_endpoint built]
  · intro request made
    obtain ⟨addressed, body⟩ := make_eq_ok made
    rw [found] at addressed
    exact ⟨(Except.ok.inj addressed).symm, body⟩

/-- Texts full of marks, on a server whose query already holds a token. -/
theorem texts_stay_in_their_fields_of_forger :
    let target : Target :=
      { room := "ops&color=red", server := "http://relay.local/hipchat/?auth_token=old&=#top"
        token := "a b&auth_token=%2B+", sender := "CI=\n\u00e4" }
    let notification : Notification :=
      { message := "1+1=2 & 100%&notify=1", color := .green, notify := false, format := .html }
    ∃ base url, serverUrl target.server = .ok base ∧ address target = .ok url ∧
      url.queryPairs =
        [ (some "auth_token", some "old"), (some "", some ""),
          (some "auth_token", some target.token) ] ∧
      url.fragment = some "top" ∧
      formDecode (Body.form (form target notification)).text.toList =
        [ (some "from", some target.sender),
          (some "room_id", some target.room),
          (some "message", some notification.message),
          (some "color", some "green"),
          (some "notify", some "0") ] := by
  intro target notification
  let base : Url :=
    { scheme := "http"
      authority := some { host := .name "relay.local" }
      path := .segments ["hipchat", ""]
      query := some "auth_token=old&="
      fragment := some "top" }
  have accepted : serverUrl target.server = .ok base := V2.eq_ok_of_toOption (by decide +kernel)
  obtain ⟨fields, url, found, pairs, _, _, fragment, _⟩ :=
    texts_stay_in_their_fields accepted notification
  have before : base.queryPairs = [(some "auth_token", some "old"), (some "", some "")] := by
    decide +kernel
  rw [before] at pairs
  exact ⟨base, url, accepted, found, pairs, fragment, fields⟩

end V1
end BuildNotices
