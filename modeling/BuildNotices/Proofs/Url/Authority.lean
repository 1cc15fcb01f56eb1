import BuildNotices.Proofs.Delivery.Request
import BuildNotices.Proofs.Text.Search
import BuildNotices.Url.Parser
/-!
Where the scheme and the host of a URL stand in its text.

The scheme is what stands in front of the first colon. A host follows the slashes behind the
colon, or the last sign of the authority where a user stands in front of it, and it goes on up to
a colon outside of brackets or up to the end of the authority.
-/

namespace BuildNotices
namespace Url

open Text

/-! ### Computations that succeed -/

def Gives {ε α : Type} (property : α → Prop) (computation : Except ε α) : Prop :=
  ∀ value, computation = .ok value → property value

theorem Gives.pure {ε α : Type} {property : α → Prop} {value : α} (holds : property value) :
    Gives property (pure value : Except ε α) := by
  intro other same
  cases same
  exact holds

theorem Gives.bind {ε α β : Type} {property : β → Prop} {first : Except ε α}
    {next : α → Except ε β} (after : ∀ value, first = .ok value → Gives property (next value)) :
    Gives property (first >>= next) := by
  intro value both
  obtain ⟨middle, before, rest⟩ := exists_of_bind_eq_ok both
  exact after middle before value rest

theorem Gives.guard {ε α : Type} {property : α → Prop} {condition : Bool} {fault : ε}
    {next : Unit → Except ε α} (after : Gives property (next ())) :
    Gives property (if condition = true then throw fault >>= next else next ()) := by
  split
  · intro value impossible
    cases impossible
  · exact after

/-! ### Cutting a text -/

theorem splitScheme?_eq_some {chars rest : List Char} {scheme : String}
    (cut : splitScheme? chars = some (scheme, rest)) :
    ∃ written, chars = written ++ ':' :: rest ∧ ':' ∉ written ∧
      scheme = String.ofList (written.map Char.toLower) := by
  unfold splitScheme? at cut
  extract_lets isSchemeChar written at cut
  split at cut
  next behind followed =>
    split at cut
    next =>
      cases cut
      have absent : ':' ∉ written := by
        intro member
        have accepted : isSchemeChar ':' = true := List.mem_takeWhile_imp member
        exact absurd accepted (by decide)
      exact ⟨written, (span_split followed).1, absent, rfl⟩
    next => cases cut
  next => cases cut

theorem splitAtLast?_eq_none {mark : Char} {chars : List Char}
    (whole : splitAtLast? mark chars = none) : mark ∉ chars := by
  unfold splitAtLast? at whole
  split at whole
  next => cases whole
  next absent => exact fun member => absent (List.contains_iff_mem.mpr member)

theorem splitAtLast?_eq_some {mark : Char} {chars front behind : List Char}
    (cut : splitAtLast? mark chars = some (front, behind)) :
    chars = front ++ mark :: behind ∧ mark ∉ behind := by
  unfold splitAtLast? at cut
  split at cut
  next found =>
    -- Read backwards, the text behind the last mark is the run in front of the first one.
    obtain ⟨tail, rest, parts, absent⟩ :=
      List.eq_append_cons_of_mem (List.mem_reverse.mpr (List.contains_iff_mem.mp found))
    have run : chars.reverse.takeWhile (· ≠ mark) = tail := by
      rw [parts]
      exact (span_ne rest absent).1
    have forward : chars = rest.reverse ++ mark :: tail.reverse := by
      rw [← List.reverse_reverse chars, parts, List.reverse_append, List.reverse_cons,
        List.append_assoc, List.singleton_append]
    have length : chars.length - tail.reverse.length - 1 = rest.reverse.length := by
      rw [forward, List.length_append, List.length_cons]
      omega
    have taken : chars.take rest.reverse.length = rest.reverse := by
      rw [forward, List.take_left]
    rw [run] at cut
    dsimp only at cut
    rw [length, taken] at cut
    cases cut
    exact ⟨forward, fun member => absent (List.mem_reverse.mp member)⟩
  next => cases cut

/-! ### The name of a host -/

theorem splitHost_append (special : Bool) (chars : List Char) (bracketed : Bool) :
    (splitHost special chars bracketed).1 ++ (splitHost special chars bracketed).2 = chars := by
  induction chars generalizing bracketed with
  | nil => rfl
  | cons c rest ih =>
      rw [splitHost]
      split
      · rfl
      · exact congrArg (c :: ·) (ih _)

/-- The name of a host goes on up to a colon outside of brackets or up to what ends an authority.
A bracket may be open in front of the name. -/
structure EndsHost (special bracketed : Bool) (name behind : List Char) : Prop where
  inside : ∀ c ∈ name, endsAuthority special c = false
  colons : ∀ front, front ++ [':'] <+: name → bracketed = true ∨ '[' ∈ front
  stopped : ∀ c, behind.head? = some c → c = ':' ∨ endsAuthority special c = true

namespace EndsHost

variable {special bracketed opened : Bool} {name behind : List Char} {c : Char}

theorem nil (stopped : ∀ c, behind.head? = some c → c = ':' ∨ endsAuthority special c = true) :
    EndsHost special bracketed [] behind := by
  refine ⟨List.forall_mem_nil _, fun front start => ?_, stopped⟩
  have empty : front ++ [':'] = [] := List.prefix_nil.mp start
  exact absurd empty (List.append_ne_nil_of_right_ne_nil front (List.cons_ne_nil ':' []))

theorem cons (ends : EndsHost special opened name behind)
    (goesOn : endsAuthority special c = false) (colon : c = ':' → bracketed = true)
    (opens : opened = true → bracketed = true ∨ c = '[') :
    EndsHost special bracketed (c :: name) behind := by
  refine ⟨List.forall_mem_cons.mpr ⟨goesOn, ends.inside⟩, ?_, ends.stopped⟩
  intro front start
  cases front with
  | nil =>
      have same : ':' = c := (List.cons_prefix_cons.mp start).1
      exact Or.inl (colon same.symm)
  | cons first others =>
      obtain ⟨same, later⟩ := List.cons_prefix_cons.mp start
      rcases ends.colons others later with before | member
      · refine (opens before).imp_right fun bracket => ?_
        rw [same, bracket]
        exact List.mem_cons_self
      · exact Or.inr (List.mem_cons_of_mem first member)

end EndsHost

theorem endsHost_splitHost (special : Bool) (chars : List Char) (bracketed : Bool) :
    EndsHost special bracketed (splitHost special chars bracketed).1
      (splitHost special chars bracketed).2 := by
  induction chars generalizing bracketed with
  | nil => exact .nil fun c first => nomatch first
  | cons c rest ih =>
      rw [splitHost]
      split
      next stops =>
        simp only [Bool.or_eq_true, Bool.and_eq_true, decide_eq_true_eq] at stops
        refine .nil fun first same => ?_
        cases same
        exact stops.imp_left And.left
      next goes =>
        extract_lets inside
        simp only [Bool.or_eq_true, Bool.and_eq_true, decide_eq_true_eq, Bool.not_eq_true',
          not_or, not_and, Bool.not_eq_true, Bool.not_eq_false] at goes
        -- Brackets are open behind this character only if they were, or it opens them.
        refine (ih inside).cons goes.2 goes.1 fun opened => ?_
        unfold inside at opened
        split at opened
        next bracket => exact Or.inr bracket
        next =>
          split at opened
          · cases opened
          · exact Or.inl opened

/-- The authority at the start of a text. -/
def authorityOf (special : Bool) (chars : List Char) : List Char :=
  chars.takeWhile fun c => !endsAuthority special c

/-- The host of the authority at the start of a text has a name. A user may stand in front of it,
with the last sign of the authority behind. -/
inductive NamesHost (special : Bool) : (chars name : List Char) → Prop where
  | direct {name behind : List Char} (signless : '@' ∉ authorityOf special (name ++ behind))
      (ends : EndsHost special false name behind) : NamesHost special (name ++ behind) name
  | behindUser {user name behind : List Char}
      (inside : ∀ c ∈ user, endsAuthority special c = false)
      (signless : '@' ∉ authorityOf special (name ++ behind))
      (ends : EndsHost special false name behind) :
      NamesHost special (user ++ '@' :: (name ++ behind)) name

def splitUser (special : Bool) (chars : List Char) : Option (List Char) × List Char :=
  match splitAtLast? '@' (authorityOf special chars) with
  | none => (none, chars)
  | some (user, host) => (some user, host ++ chars.drop (authorityOf special chars).length)

theorem namesHost_splitUser (special : Bool) (chars : List Char) :
    NamesHost special chars (splitHost special (splitUser special chars).2 false).1 := by
  have ends := endsHost_splitHost special (splitUser special chars).2 false
  have joined := (splitHost_append special (splitUser special chars).2 false).symm
  generalize splitHost special (splitUser special chars).2 false = parts at ends joined ⊢
  obtain ⟨name, behind⟩ := parts
  unfold splitUser at joined
  split at joined
  next whole =>
    have signless := splitAtLast?_eq_none whole
    dsimp only at joined
    rw [joined] at signless ⊢
    exact .direct signless ends
  next user host cut =>
    obtain ⟨authority, absent⟩ := splitAtLast?_eq_some cut
    dsimp only at joined
    have parts : chars = user ++ '@' :: (name ++ behind) := by
      have taken : chars.take (authorityOf special chars).length = authorityOf special chars :=
        (List.prefix_iff_eq_take.mp (List.takeWhile_prefix _)).symm
      calc chars
          = authorityOf special chars ++ chars.drop (authorityOf special chars).length := by
            conv =>
              lhs
              rw [← List.take_append_drop (authorityOf special chars).length chars, taken]
        _ = user ++ '@' :: (host ++ chars.drop (authorityOf special chars).length) := by
            conv =>
              lhs
              lhs
              rw [authority]
            rw [List.append_assoc, List.cons_append]
        _ = user ++ '@' :: (name ++ behind) := by rw [joined]
    have inside : ∀ c ∈ user ++ ['@'], (!endsAuthority special c) = true := by
      intro c member
      have start : c ∈ authorityOf special chars := by
        rw [authority, List.append_cons]
        exact List.mem_append_left host member
      exact List.mem_takeWhile_imp (p := fun c => !endsAuthority special c) start
    have same : authorityOf special (name ++ behind) = host := by
      rw [parts, List.append_cons, authorityOf, List.takeWhile_append_of_pos inside,
        List.append_assoc] at authority
      exact List.tail_eq_of_cons_eq (List.append_cancel_left authority)
    rw [parts]
    refine .behindUser ?_ (same ▸ absent) ends
    intro c member
    simpa using inside c (List.mem_append_left _ member)

/-! ### Reading an authority -/

/-- The host that a name stands for, by the rules of its scheme. -/
def readHost (special : Bool) (name : List Char) : Except Fault Host :=
  if special then readDomainHost name else readPlainHost name

/-- A URL has the scheme, the host that stands in a text, and the segments of some path. -/
structure IsReadFrom (scheme : String) (chars : List Char) (url : Url) : Prop where
  sameScheme : url.scheme = scheme
  host : ∃ authority name, url.authority = some authority ∧
    NamesHost (isSpecialScheme scheme) chars name ∧
    readHost (isSpecialScheme scheme) name = .ok authority.host
  path : ∃ path, url.path = .segments
    (if isSpecialScheme scheme then specialSegments false path else plainSegments path)

theorem readAuthority_isReadFrom (scheme : String) (chars : List Char) :
    Gives (IsReadFrom scheme chars) (readAuthority scheme chars) := by
  have named := namesHost_splitUser (isSpecialScheme scheme) chars
  unfold readAuthority
  extract_lets special authority behind
  split
  next userinfo hostAndRest split =>
    have cut : splitUser special chars = (userinfo, hostAndRest) := split
    change NamesHost special chars (splitHost special (splitUser special chars).2 false).1 at named
    rw [cut] at named
    extract_lets behindUserinfo
    refine Gives.guard ?_
    unfold behindUserinfo
    dsimp -zeta only
    extract_lets -underBinder behindEmptyHost
    refine Gives.guard ?_
    unfold behindEmptyHost
    extract_lets -underBinder behindHost
    have readBehindHost (host : Host)
        (read : readHost special (splitHost special hostAndRest false).1 = .ok host) :
        Gives (IsReadFrom scheme chars) (behindHost host) := by
      unfold behindHost
      extract_lets -underBinder nameless behindName
      refine Gives.guard ?_
      unfold behindName
      extract_lets -underBinder behindPort
      have readBehindPort (result : Option Nat × List Char) :
          Gives (IsReadFrom scheme chars) (behindPort result) := by
        unfold behindPort
        extract_lets -underBinder finish
        refine Gives.guard ?_
        unfold finish
        extract_lets -underBinder path segments url
        exact Gives.pure ⟨rfl, ⟨_, _, rfl, named, read⟩, ⟨path, rfl⟩⟩
      split
      · exact Gives.bind fun result _ => readBehindPort result
      · exact Gives.bind fun result _ => readBehindPort result
    split
    next known =>
      refine Gives.bind fun host read => readBehindHost host ?_
      rw [readHost, if_pos known]
      exact read
    next unknown =>
      refine Gives.bind fun host read => readBehindHost host ?_
      rw [readHost, if_neg unknown]
      exact read

end Url
end BuildNotices
