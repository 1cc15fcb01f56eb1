import BuildNotices.Proofs.Delivery.Server
import BuildNotices.Proofs.Url.Segment
/-!
The addresses of rooms.

A room is one escaped name in the path of its address, between two fixed names, so the address
tells the room. There are rooms for which this fails: a step adds nothing to the path, and tabs
and line breaks vanish in it.
-/

namespace BuildNotices
namespace V2

open Text Url

variable {scheme : String}

/-! ### The path of an address -/

/-- What stands for a room in a path, with the name in front of it. -/
def roomSegments (scheme room : String) : List String :=
  if IsStep room then ["room"]
  else if shown room = ['.', '.'] then [""]
  else ["room", writtenName scheme room]

theorem slashFree_roomSegments (room : String) : SlashFree (roomSegments scheme room) := by
  have fixed : '/' ∉ "room".toList := by decide
  have empty : '/' ∉ "".toList := by decide
  unfold roomSegments
  split
  · exact slashFree_cons.mpr ⟨fixed, slashFree_nil⟩
  · split
    · exact slashFree_cons.mpr ⟨empty, slashFree_nil⟩
    · exact slashFree_cons.mpr ⟨fixed, slashFree_cons.mpr
        ⟨not_mem_writtenName room (Or.inl rfl), slashFree_nil⟩⟩

theorem front_appendSegment_room {segments : List String} {room : String}
    (filled : segments ≠ []) (plain : shown room = ['.'] → IsStep room) :
    front (appendSegment scheme (segments ++ ["room"]) room) =
      segments ++ roomSegments scheme room := by
  have kept : front (segments ++ ["room"]) = segments ++ ["room"] := front_concat (Or.inl filled)
  have longer : segments ++ ["room"] ≠ [] := List.append_ne_nil_of_left_ne_nil filled _
  have notLone : segments ++ ["room"] ≠ [""] := fun same =>
    filled (List.append_inj_left' (same.trans (List.nil_append _).symm) rfl)
  unfold roomSegments
  by_cases step : IsStep room
  · rw [appendSegment_of_isStep _ step, kept, if_pos step]
  · rw [if_neg step]
    by_cases outer : shown room = ['.', '.']
    · rw [appendSegment_of_outer step outer notLone, List.dropLast_concat, if_pos outer]
      exact front_concat (Or.inl filled)
    · have name : IsName room := ⟨step, mt plain step, outer⟩
      rw [appendSegment_of_isName name (Or.inr ⟨notLone, longer⟩), kept, if_neg outer,
        front_concat (Or.inl longer), List.append_assoc, List.singleton_append]

theorem foldl_appendSegment_room (scheme : String) (segments : List String) {room : String}
    (plain : shown room = ['.'] → IsStep room) :
    ["v2", "room", room, "notification"].foldl (appendSegment scheme) segments =
      front segments ++ "v2" :: (roomSegments scheme room ++ ["notification"]) := by
  have filled : front segments ++ ["v2"] ≠ [] := List.append_ne_nil_of_right_ne_nil _ (by decide)
  have version : appendSegment scheme segments "v2" = front segments ++ ["v2"] :=
    appendSegment_of_isPlain segments (by decide)
  have start : appendSegment scheme (front segments ++ ["v2"]) "room" =
      front segments ++ ["v2"] ++ ["room"] := by
    rw [appendSegment_of_isPlain _ (by decide), front_concat (Or.inr (by decide))]
  simp only [List.foldl_cons, List.foldl_nil]
  rw [version, start, appendSegment_of_isPlain _ (by decide), front_appendSegment_room filled plain,
    List.append_assoc, List.append_assoc, List.singleton_append]

theorem exists_segments_of_serverUrl {server : String} {base : Url}
    (accepted : serverUrl server = .ok base) :
    ∃ segments, base.path = .segments segments ∧ SlashFree segments := by
  obtain ⟨read, isBase⟩ := serverUrl_eq_ok accepted
  exact exists_segments_of_parse read isBase

/-- The address of a room: the URL of the server with a longer path. -/
theorem address_eq {target : Target} {base : Url} {segments : List String}
    (accepted : serverUrl target.server = .ok base) (path : base.path = .segments segments)
    (plain : shown target.room = ['.'] → IsStep target.room) :
    address target = .ok { base with
      path := .segments (front (dropEmptyEnd segments) ++
        "v2" :: (roomSegments base.scheme target.room ++ ["notification"])) } := by
  have added := foldl_appendSegment_room base.scheme (dropEmptyEnd segments) plain
  unfold address
  rw [accepted]
  change endpoint base ["v2", "room", target.room, "notification"] = _
  rw [endpoint, append?, path]
  dsimp only
  rw [added]

/-! ### What an address tells -/

theorem segmentsText_room (written : String) :
    segmentsText ["v2", "room", written, "notification"] =
      "/v2/room/" ++ written ++ "/notification" := by
  rw [← String.toList_inj]
  simp [segmentsText]

/-- The address of a room that is no step, and in which nothing vanishes, is the URL of the server
with the room as one name in a longer path. Escapes undone, this name is the room. -/
theorem address_writes_room {target : Target} {base : Url}
    (accepted : serverUrl target.server = .ok base) (visible : IsVisible target.room)
    (named : ¬ IsStep target.room) :
    ∃ url written, address target = .ok url ∧
      url.scheme = base.scheme ∧ url.authority = base.authority ∧
      url.query = base.query ∧ url.fragment = base.fragment ∧
      url.path.text =
        (if base.path.text = "//" then "" else lessFinalSlash base.path.text) ++
          ("/v2/room/" ++ written ++ "/notification") ∧
      (∀ mark ∈ written.toList, mark ≠ '/' ∧ mark ≠ '?' ∧ mark ≠ '#') ∧
      decode? written.toList = some target.room := by
  obtain ⟨segments, path, free⟩ := exists_segments_of_serverUrl accepted
  obtain ⟨_, noDot, noDots⟩ := isName_of_isVisible visible named
  have room : roomSegments base.scheme target.room =
      ["room", writtenName base.scheme target.room] := by
    rw [roomSegments, if_neg named, if_neg noDots]
  have found := address_eq accepted path fun dot => absurd dot noDot
  rw [room] at found
  refine ⟨_, writtenName base.scheme target.room, found, rfl, rfl, rfl, rfl, ?_, ?_, ?_⟩
  · have before : segmentsText (front (dropEmptyEnd segments)) =
        if base.path.text = "//" then "" else lessFinalSlash base.path.text := by
      rw [path]
      exact segmentsText_front_dropEmptyEnd free
    rw [← before, ← segmentsText_room, ← segmentsText_append]
    rfl
  · intro mark member
    refine ⟨?_, ?_, ?_⟩
    · rintro rfl
      exact not_mem_writtenName _ (Or.inl rfl) member
    · rintro rfl
      exact not_mem_writtenName _ (Or.inr rfl) member
    · rintro rfl
      exact not_mem_writtenName _ (Or.inr rfl) member
  · rw [decode?_writtenName, shown_eq_toList visible, String.ofList_toList]

theorem eq_ok_of_toOption {ε α : Type} {computation : Except ε α} {value : α}
    (gives : computation.toOption = some value) : computation = .ok value := by
  cases computation with
  | error fault => cases gives
  | ok found =>
      cases gives
      rfl

/-- A room with a slash, a space and an escape, on a server with a path and a query. -/
theorem address_writes_awkward_room :
    let target : Target :=
      { room := "Dev Ops/QA %2F?", server := "http://relay.local/hipchat/?x=1#top"
        token := "secret", sender := "CI" }
    ∃ base url written, serverUrl target.server = .ok base ∧
      IsVisible target.room ∧ ¬ IsStep target.room ∧
      address target = .ok url ∧ url.query = some "x=1" ∧ url.fragment = some "top" ∧
      url.path.text = "/hipchat" ++ ("/v2/room/" ++ written ++ "/notification") ∧
      decode? written.toList = some target.room := by
  intro target
  let base : Url :=
    { scheme := "http"
      authority := some { host := .name "relay.local" }
      path := .segments ["hipchat", ""]
      query := some "x=1"
      fragment := some "top" }
  have accepted : serverUrl target.server = .ok base := eq_ok_of_toOption (by decide +kernel)
  have visible : IsVisible target.room := by decide
  have named : ¬ IsStep target.room := by decide
  obtain ⟨url, written, found, _, _, query, fragment, path, _, read⟩ :=
    address_writes_room accepted visible named
  have before : (if base.path.text = "//" then "" else lessFinalSlash base.path.text) =
      "/hipchat" := by decide
  rw [before] at path
  exact ⟨base, url, written, accepted, visible, named, found, query, fragment, path, read⟩

/-! ### Rooms with one address -/

/-- Whether nothing in the addresses of two rooms tells them apart. -/
def SharesAddress (first second : String) : Prop :=
  (IsStep first ∧ IsStep second) ∨
    (¬ IsStep first ∧ ¬ IsStep second ∧ shown first = shown second)

theorem roomSegments_ne_of_isStep {first second : String} (step : IsStep first)
    (named : ¬ IsStep second) : roomSegments scheme first ≠ roomSegments scheme second := by
  rw [roomSegments, if_pos step, roomSegments, if_neg named]
  split
  · decide
  · intro same
    cases (List.cons.inj same).2

theorem shown_eq_of_roomSegments_eq {first second : String} (firstNamed : ¬ IsStep first)
    (secondNamed : ¬ IsStep second)
    (same : roomSegments scheme first = roomSegments scheme second) :
    shown first = shown second := by
  rw [roomSegments, if_neg firstNamed, roomSegments, if_neg secondNamed] at same
  by_cases firstOuter : shown first = ['.', '.']
  · by_cases secondOuter : shown second = ['.', '.']
    · rw [firstOuter, secondOuter]
    · rw [if_pos firstOuter, if_neg secondOuter] at same
      cases (List.cons.inj same).2
  · by_cases secondOuter : shown second = ['.', '.']
    · rw [if_neg firstOuter, if_pos secondOuter] at same
      cases (List.cons.inj same).2
    · rw [if_neg firstOuter, if_neg secondOuter] at same
      exact writtenName_inj.mp (List.singleton_inj.mp (List.cons.inj same).2)

theorem roomSegments_inj {first second : String} :
    roomSegments scheme first = roomSegments scheme second ↔ SharesAddress first second := by
  constructor
  · intro same
    by_cases firstStep : IsStep first
    · by_cases secondStep : IsStep second
      · exact Or.inl ⟨firstStep, secondStep⟩
      · exact absurd same (roomSegments_ne_of_isStep firstStep secondStep)
    · by_cases secondStep : IsStep second
      · exact absurd same.symm (roomSegments_ne_of_isStep secondStep firstStep)
      · exact Or.inr ⟨firstStep, secondStep,
          shown_eq_of_roomSegments_eq firstStep secondStep same⟩
  · rintro (⟨firstStep, secondStep⟩ | ⟨firstNamed, secondNamed, same⟩)
    · rw [roomSegments, if_pos firstStep, roomSegments, if_pos secondStep]
    · have written : writtenName scheme first = writtenName scheme second :=
        writtenName_inj.mpr same
      rw [roomSegments, if_neg firstNamed, roomSegments, if_neg secondNamed, same, written]

theorem eq_of_sharesAddress {first second : String} (shared : SharesAddress first second)
    (named : ¬ IsStep first) (firstVisible : IsVisible first) (secondVisible : IsVisible second) :
    first = second := by
  rcases shared with ⟨step, _⟩ | ⟨_, _, same⟩
  · exact absurd step named
  · rw [shown_eq_toList firstVisible, shown_eq_toList secondVisible] at same
    exact String.toList_inj.mp same

theorem isBlank_of_isIgnored {c : Char} (ignored : isIgnored c = true) : isBlank c = true := by
  simp only [isIgnored, Bool.or_eq_true, decide_eq_true_eq] at ignored
  rcases ignored with (rfl | rfl) | rfl <;> rfl

/-- What vanishes is blank, so a trimmed room shows as one point only when it is one. -/
theorem eq_dot_of_shown_trim {chars : List Char}
    (dot : shown (String.ofList (trim chars)) = ['.']) : trim chars = ['.'] := by
  rw [shown, String.toList_ofList] at dot
  obtain ⟨before, after, cut, goneBefore, _, rest⟩ := List.filter_eq_cons_iff.mp dot
  have vanishes {c : Char} (gone : ¬ (!isIgnored c) = true) : isBlank c = true :=
    isBlank_of_isIgnored (by simpa using gone)
  have nothingBefore : before = [] := by
    cases before with
    | nil => rfl
    | cons first others =>
        have blank := vanishes (goneBefore first List.mem_cons_self)
        have starts : (trim chars).head? = some first := by rw [cut, List.cons_append]; rfl
        rw [isBlank_of_head?_trim starts] at blank
        cases blank
  have nothingAfter : after = [] := by
    rcases List.eq_nil_or_concat' after with rfl | ⟨others, last, rfl⟩
    · rfl
    · have blank := vanishes (List.filter_eq_nil_iff.mp rest last List.mem_concat_self)
      have ends : (trim chars).getLast? = some last := by
        rw [cut, ← List.cons_append, ← List.append_assoc, List.getLast?_concat]
      rw [isBlank_of_getLast?_trim ends] at blank
      cases blank
  rw [cut, nothingBefore, nothingAfter, List.nil_append]

theorem isStep_of_mem_roomTargets {rooms server token sender : String} {target : Target}
    (listed : target ∈ roomTargets rooms server token sender)
    (dot : shown target.room = ['.']) : IsStep target.room := by
  obtain ⟨room, member, rfl⟩ := List.mem_map.mp listed
  obtain ⟨field, _, rfl⟩ := List.mem_map.mp (List.mem_filter.mp member).1
  exact Or.inl (congrArg String.ofList (eq_dot_of_shown_trim dot))

theorem server_of_mem_roomTargets {rooms server token sender : String} {target : Target}
    (listed : target ∈ roomTargets rooms server token sender) : target.server = server := by
  obtain ⟨room, _, rfl⟩ := List.mem_map.mp listed
  rfl

/-- Every listed room has an address. Two listed rooms have the same one only if both are steps, or
if neither is and what does not vanish in them is the same. -/
theorem addresses_coincide_iff {rooms server token sender : String} {base : Url}
    (accepted : serverUrl server = .ok base) {first second : Target}
    (firstListed : first ∈ roomTargets rooms server token sender)
    (secondListed : second ∈ roomTargets rooms server token sender) :
    ∃ firstUrl secondUrl, address first = .ok firstUrl ∧ address second = .ok secondUrl ∧
      (firstUrl.text = secondUrl.text ↔ SharesAddress first.room second.room) ∧
      (first.room ≠ second.room → ¬ IsStep first.room →
        IsVisible first.room → IsVisible second.room → firstUrl.text ≠ secondUrl.text) := by
  obtain ⟨segments, path, free⟩ := exists_segments_of_serverUrl accepted
  have whole (room : String) : SlashFree (front (dropEmptyEnd segments) ++
      "v2" :: (roomSegments base.scheme room ++ ["notification"])) := by
    have fixed : '/' ∉ "v2".toList ∧ '/' ∉ "notification".toList := by decide
    refine slashFree_append.mpr ⟨slashFree_front (slashFree_dropEmptyEnd free), ?_⟩
    refine slashFree_cons.mpr ⟨fixed.1, slashFree_append.mpr ⟨slashFree_roomSegments room, ?_⟩⟩
    exact slashFree_cons.mpr ⟨fixed.2, slashFree_nil⟩
  have firstFound := address_eq ((server_of_mem_roomTargets firstListed).symm ▸ accepted) path
    (isStep_of_mem_roomTargets firstListed)
  have secondFound := address_eq ((server_of_mem_roomTargets secondListed).symm ▸ accepted) path
    (isStep_of_mem_roomTargets secondListed)
  have told := (text_append_inj base (by decide) (whole first.room)
    (whole second.room)).trans ((List.append_left_inj _).trans roomSegments_inj)
  refine ⟨_, _, firstFound, secondFound, told, ?_⟩
  intro different named firstVisible secondVisible same
  exact different (eq_of_sharesAddress (told.mp same) named firstVisible secondVisible)

/-- What is escaped in one room may stand in another one. -/
theorem addresses_of_escaped_rooms :
    let targets := roomTargets "Dev Ops/QA, Dev%20Ops%2FQA" "chat.local" "secret" "CI"
    ∃ base first second firstUrl secondUrl, serverUrl "chat.local" = .ok base ∧
      targets = [first, second] ∧ first.room ≠ second.room ∧
      address first = .ok firstUrl ∧ address second = .ok secondUrl ∧
      firstUrl.text ≠ secondUrl.text := by
  intro targets
  let first : Target :=
    { room := "Dev Ops/QA", server := "chat.local", token := "secret", sender := "CI" }
  let second : Target :=
    { room := "Dev%20Ops%2FQA", server := "chat.local", token := "secret", sender := "CI" }
  let base : Url :=
    { scheme := "https"
      authority := some { host := .name "chat.local" }
      path := .segments [""] }
  have listed : targets = [first, second] := by decide
  have accepted : serverUrl "chat.local" = .ok base := eq_ok_of_toOption (by decide +kernel)
  have firstListed : first ∈ targets := listed ▸ List.mem_cons_self
  have secondListed : second ∈ targets := listed ▸ List.mem_cons_of_mem first List.mem_cons_self
  obtain ⟨firstUrl, secondUrl, firstFound, secondFound, _, apart⟩ :=
    addresses_coincide_iff accepted firstListed secondListed
  have different : first.room ≠ second.room := by decide
  exact ⟨base, first, second, firstUrl, secondUrl, accepted, listed, different, firstFound,
    secondFound, apart different (by decide) (by decide) (by decide)⟩

/-- Of these four rooms the first two have the same address, and so have the last two. -/
theorem addresses_of_vanishing_rooms :
    let targets := roomTargets "a\tb, ab, ., .." "chat.local" "secret" "CI"
    targets.map Target.room = ["a\tb", "ab", ".", ".."] ∧
      targets.map (fun target => (address target).toOption.map Url.text) =
        [some "https://chat.local/v2/room/ab/notification",
          some "https://chat.local/v2/room/ab/notification",
          some "https://chat.local/v2/room/notification",
          some "https://chat.local/v2/room/notification"] := by
  decide +kernel

end V2
end BuildNotices
