import BuildNotices.Delivery.Request
import BuildNotices.Proofs.Url.Form
/-!
What a request shows of its target.

The steps that make a request keep the query of the server, and the older protocol adds
one pair behind it.
-/

namespace BuildNotices

theorem exists_of_bind_eq_ok {ε α β : Type} {first : Except ε α} {next : α → Except ε β}
    {value : β} (both : first >>= next = .ok value) :
    ∃ middle, first = .ok middle ∧ next middle = .ok value := by
  cases first with
  | error error => cases both
  | ok middle => exact ⟨middle, rfl, both⟩

/-- A request shows a token the way its protocol does: the older one as the last pair of
the query, behind the pairs of the server, and the newer one in the header. -/
def Request.Carries (protocol : Protocol) (server token : String) (request : Request) : Prop :=
  match protocol with
  | .v1 => request.bearer = none ∧ ∃ base, serverUrl server = .ok base ∧
      request.url.queryPairs = base.queryPairs ++ [(some "auth_token", some token)]
  | .v2 => request.bearer = some token

theorem queryPairs_of_endpoint {base url : Url} {segments : List String}
    (built : endpoint base segments = .ok url) : url.queryPairs = base.queryPairs := by
  unfold endpoint Url.append? at built
  split at built
  next written found =>
    split at found
    next => cases found
    next =>
      cases found
      cases built
      rfl
  next => cases built

theorem carries_of_make {protocol : Protocol} {target : Target} {notification : Notification}
    {request : Request} (made : Request.make protocol target notification = .ok request) :
    request.Carries protocol target.server target.token := by
  cases protocol with
  | v1 =>
      obtain ⟨url, addressed, rest⟩ := exists_of_bind_eq_ok made
      obtain ⟨base, based, path⟩ := exists_of_bind_eq_ok addressed
      obtain ⟨below, built, final⟩ := exists_of_bind_eq_ok path
      cases final
      split at rest
      next =>
        cases rest
        refine ⟨rfl, base, based, ?_⟩
        rw [Url.queryPairs_appendQuery, queryPairs_of_endpoint built]
      next => cases rest
  | v2 =>
      obtain ⟨url, _, rest⟩ := exists_of_bind_eq_ok made
      split at rest
      next =>
        cases rest
        rfl
      next => cases rest

end BuildNotices
