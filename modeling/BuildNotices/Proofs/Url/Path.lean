import BuildNotices.Proofs.Url.Authority
import BuildNotices.Proofs.Url.Escape
/-!
Paths of URLs that were read.

A path is cut at slashes before anything else is done with it, and no later step puts a slash
into a segment. So the text of a path tells its segments, and a URL with an authority always
has a path of segments.
-/

namespace BuildNotices
namespace Url

open Text

/-! ### Segments and their text -/

def SlashFree (segments : List String) : Prop :=
  ∀ segment ∈ segments, '/' ∉ segment.toList

theorem slashFree_nil : SlashFree [] := by
  intro segment member
  cases member

theorem slashFree_cons {segment : String} {rest : List String} :
    SlashFree (segment :: rest) ↔ '/' ∉ segment.toList ∧ SlashFree rest :=
  List.forall_mem_cons

theorem slashFree_append {first second : List String} :
    SlashFree (first ++ second) ↔ SlashFree first ∧ SlashFree second :=
  List.forall_mem_append

theorem segmentsText_cons (segment : String) (rest : List String) :
    segmentsText (segment :: rest) = "/" ++ segment ++ segmentsText rest := by
  simp only [segmentsText, List.map_cons, String.join_cons]

theorem segmentsText_append (first second : List String) :
    segmentsText (first ++ second) = segmentsText first ++ segmentsText second := by
  simp only [segmentsText, List.map_append, String.join_append]

/-- Cut at its slashes, the text of a path gives the segments back. -/
theorem fields_segmentsText {segments : List String} (free : SlashFree segments) :
    fields '/' (segmentsText segments).toList = [] :: segments.map String.toList := by
  induction segments with
  | nil => rfl
  | cons segment rest ih =>
      obtain ⟨here, later⟩ := slashFree_cons.mp free
      have cut := fields_append_of_not_mem here (ih later)
      have written : (segmentsText (segment :: rest)).toList =
          '/' :: (segment.toList ++ (segmentsText rest).toList) := by
        rw [segmentsText_cons, String.toList_append, String.toList_append]
        rfl
      rw [written, fields, if_pos rfl, cut, List.append_nil, List.map_cons]

theorem segmentsText_injective {first second : List String} (firstFree : SlashFree first)
    (secondFree : SlashFree second) (same : segmentsText first = segmentsText second) :
    first = second := by
  have cut := fields_segmentsText firstFree
  rw [same, fields_segmentsText secondFree, List.cons.injEq] at cut
  exact (List.map_inj_right fun _ _ => String.toList_inj.mp).mp cut.2.symm

/-! ### Reading a path -/

theorem slashFree_stepOut {reversed : List String} (known : SlashFree reversed) (file : Bool) :
    SlashFree (stepOut file reversed) := by
  cases reversed with
  | nil => exact slashFree_nil
  | cons only outer =>
      cases outer with
      | nil =>
          rw [stepOut]
          split
          · exact known
          · exact slashFree_nil
      | cons next others => exact (slashFree_cons.mp known).2

theorem not_mem_writtenSegment {segment : List Char} (piece : '/' ∉ segment) (file : Bool)
    (reversed : List String) : '/' ∉ (writtenSegment file reversed segment).toList := by
  unfold writtenSegment
  split
  · rw [String.toList_ofList, List.mem_append, not_or]
    exact ⟨fun member => piece (List.mem_of_mem_take member), by decide⟩
  · rw [String.toList_ofList]
    exact not_mem_encode (by decide) (by decide) (Or.inr piece)

theorem slashFree_reverse {segments : List String} :
    SlashFree segments.reverse ↔ SlashFree segments := by
  simp only [SlashFree, List.mem_reverse]

theorem slashFree_resolveSteps (file : Bool) {pieces : List (List Char)}
    {reversed : List String} (cut : ∀ piece ∈ pieces, '/' ∉ piece)
    (known : SlashFree reversed) : SlashFree (resolveSteps file pieces reversed) := by
  induction pieces generalizing reversed with
  | nil => exact slashFree_reverse.mpr known
  | cons piece rest ih =>
      have here : '/' ∉ piece := cut piece List.mem_cons_self
      have later : ∀ other ∈ rest, '/' ∉ other := fun other member =>
        cut other (List.mem_cons_of_mem piece member)
      have out := slashFree_stepOut known file
      have kept : SlashFree (writtenSegment file reversed piece :: reversed) :=
        slashFree_cons.mpr ⟨not_mem_writtenSegment here file reversed, known⟩
      have blank : '/' ∉ "".toList := by decide
      -- The last piece is kept as an empty one where any other piece would vanish.
      cases rest with
      | nil =>
          rw [resolveSteps]
          split
          · exact slashFree_reverse.mpr (slashFree_cons.mpr ⟨blank, out⟩)
          · split
            · exact slashFree_reverse.mpr (slashFree_cons.mpr ⟨blank, known⟩)
            · exact slashFree_reverse.mpr kept
      | cons next others =>
          rw [resolveSteps]
          · split
            · exact ih later out
            · split
              · exact ih later known
              · exact ih later kept
          · exact List.cons_ne_nil next others

theorem slashFree_dropEmptyStart {segments : List String} (free : SlashFree segments) :
    SlashFree (dropEmptyStart segments) := by
  induction segments using dropEmptyStart.induct with
  | case1 next rest ih =>
      rw [dropEmptyStart]
      exact ih (slashFree_cons.mp free).2
  | case2 segments other =>
      rw [dropEmptyStart]
      · exact free
      · exact other

theorem slashFree_cut (file backslash : Bool) (chars : List Char) :
    SlashFree (resolveSteps file (splitSegments backslash chars) []) :=
  slashFree_resolveSteps file (fun _ member => not_mem_of_mem_fields member) slashFree_nil

theorem slashFree_specialSegments (file : Bool) (path : List Char) :
    SlashFree (specialSegments file path) := by
  unfold specialSegments
  cases file with
  | false => exact slashFree_cut false true _
  | true => exact slashFree_dropEmptyStart (slashFree_cut true true _)

theorem slashFree_plainSegments (path : List Char) : SlashFree (plainSegments path) := by
  unfold plainSegments
  split
  · exact slashFree_nil
  · exact slashFree_cut false false _
  · exact slashFree_cut false false _

/-! ### Reading a URL -/

/-- The path is one of segments without slashes, and only a URL without authority may have
another one. -/
def IsRegular (url : Url) : Prop :=
  match url.path with
  | .segments list => SlashFree list
  | .rootless _ => url.authority = none

theorem readAuthority_isRegular (scheme : String) (chars : List Char) :
    Gives IsRegular (readAuthority scheme chars) := by
  intro url read
  obtain ⟨path, same⟩ := (readAuthority_isReadFrom scheme chars url read).path
  rw [IsRegular, same]
  dsimp only
  split
  · exact slashFree_specialSegments false path
  · exact slashFree_plainSegments path

theorem readFile_isRegular (chars : List Char) : Gives IsRegular (readFile chars) := by
  unfold readFile
  extract_lets isSlash ofPath
  have regular (host : Host) (rest : List Char) : IsRegular (ofPath host rest) :=
    slashFree_specialSegments true _
  split
  · split
    · extract_lets hostChars
      split
      · exact Gives.pure (regular _ _)
      · exact Gives.bind fun host _ => Gives.pure (regular host _)
    · exact Gives.pure (regular _ _)
  · exact Gives.pure (regular _ _)

theorem readPlain_isRegular (scheme : String) (chars : List Char) :
    Gives IsRegular (readPlain scheme chars) := by
  unfold readPlain
  split
  · exact readAuthority_isRegular scheme _
  · extract_lets path kept url
    clear_value path
    refine Gives.pure ?_
    cases same : kept with
    | segments list =>
        have free : SlashFree list := by
          unfold kept at same
          split at same
          next => exact Path.segments.inj same ▸ slashFree_plainSegments _
          next => cases same
        simp only [IsRegular, withRest, url, same]
        exact free
    | rootless text => simp only [IsRegular, withRest, url, same]

theorem parse_isRegular (text : String) : Gives IsRegular (parse text) := by
  unfold parse
  split
  · intro url impossible
    cases impossible
  · split
    · exact readFile_isRegular _
    · split
      · exact readAuthority_isRegular _ _
      · exact readPlain_isRegular _ _

theorem exists_segments_of_parse {text : String} {url : Url} (read : parse text = .ok url)
    (base : url.isBase = true) : ∃ list, url.path = .segments list ∧ SlashFree list := by
  have regular := parse_isRegular text url read
  unfold IsRegular at regular
  cases path : url.path with
  | segments list =>
      rw [path] at regular
      exact ⟨list, rfl, regular⟩
  | rootless text =>
      rw [path] at regular
      simp only [isBase, regular, path, Bool.false_eq_true] at base

end Url
end BuildNotices
