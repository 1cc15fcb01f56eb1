import BuildNotices.Proofs.Url.Path
import Mathlib.Data.List.Basic
/-!
Segments added to a path.

A name is written escaped behind the segments that are there; a path that is a lone slash first
gives up its empty segment. What is not added like this is a step, a text that shows as a step,
and the name of a drive where a file path starts.
-/

namespace BuildNotices
namespace Url

variable {scheme : String}

/-! ### What is written for a segment -/

def IsStep (text : String) : Prop :=
  text = "." ∨ text = ".."

instance instDecidableIsStep (text : String) : Decidable (IsStep text) :=
  inferInstanceAs (Decidable (text = "." ∨ text = ".."))

def IsVisible (text : String) : Prop :=
  ∀ c ∈ text.toList, isIgnored c = false

instance instDecidableIsVisible (text : String) : Decidable (IsVisible text) :=
  List.decidableBAll (fun c => isIgnored c = false) text.toList

def shown (text : String) : List Char :=
  text.toList.filter fun c => !isIgnored c

def escapedInSegment (scheme : String) : Char → Bool :=
  if isSpecialScheme scheme then specialSegmentSet else segmentSet

def writtenName (scheme text : String) : String :=
  String.ofList (encode (escapedInSegment scheme) (shown text))

theorem shown_eq_toList {text : String} (visible : IsVisible text) :
    shown text = text.toList :=
  List.filter_eq_self.mpr fun c member => by rw [visible c member, Bool.not_false]

theorem escapedInSegment_of_segmentSet {c : Char} (special : segmentSet c = true) :
    escapedInSegment scheme c = true := by
  unfold escapedInSegment
  split
  · rw [specialSegmentSet, special, Bool.true_or]
  · exact special

theorem escapedInSegment_eq_false {c : Char} (allowed : specialSegmentSet c = false) :
    escapedInSegment scheme c = false := by
  unfold escapedInSegment
  split
  · exact allowed
  · exact (Bool.or_eq_false_iff.mp allowed).1

theorem writtenName_eq_self {text : String} (visible : IsVisible text)
    (allowed : text.toList.any specialSegmentSet = false) :
    writtenName scheme text = text := by
  have kept : encode (escapedInSegment scheme) text.toList = text.toList := by
    refine encode_eq_self fun c member => escapedInSegment_eq_false ?_
    exact Bool.not_eq_true _ ▸ List.any_eq_false.mp allowed c member
  rw [writtenName, shown_eq_toList visible, kept, String.ofList_toList]

/-- No character that ends a segment or a path stands in a written name. -/
theorem not_mem_writtenName (text : String) {mark : Char} (ends : mark = '/' ∨ endsPath mark) :
    mark ∉ (writtenName scheme text).toList := by
  have special : mark ≠ '%' ∧ formKeeps mark = false ∧ segmentSet mark = true := by
    rcases ends with rfl | other
    · decide
    · simp only [endsPath, Bool.or_eq_true, decide_eq_true_eq] at other
      rcases other with rfl | rfl <;> decide
  rw [writtenName, String.toList_ofList]
  exact not_mem_encode special.1 special.2.1
    (Or.inl (escapedInSegment_of_segmentSet special.2.2))

theorem decode?_writtenName (text : String) :
    decode? (writtenName scheme text).toList = some (String.ofList (shown text)) := by
  rw [writtenName, String.toList_ofList]
  exact decode?_encode (escapedInSegment_of_segmentSet (by decide)) (shown text)

theorem writtenName_inj {first second : String} :
    writtenName scheme first = writtenName scheme second ↔ shown first = shown second := by
  constructor
  · intro same
    exact encode_injective (escapedInSegment_of_segmentSet (by decide))
      (String.ofList_inj.mp same)
  · intro same
    rw [writtenName, same, writtenName]

/-! ### Adding one segment -/

def front (segments : List String) : List String :=
  if segments = [""] then [] else segments

theorem front_concat {segments : List String} {segment : String}
    (other : segments ≠ [] ∨ segment ≠ "") :
    front (segments ++ [segment]) = segments ++ [segment] := by
  refine if_neg ?_
  intro lone
  obtain ⟨empty, same⟩ := List.append_eq_singleton_iff.mp lone |>.resolve_right (by simp)
  exact other.elim (· empty) (· (List.singleton_inj.mp same))

theorem slashFree_front {segments : List String} (free : SlashFree segments) :
    SlashFree (front segments) := by
  unfold front
  split
  · exact slashFree_nil
  · exact free

theorem appendWritten_eq (segments : List String) (segment : String) :
    appendWritten segments segment = front segments ++ [segment] := by
  unfold appendWritten front
  split
  · rfl
  · rfl

theorem isStep_iff {text : String} : (text = "." || text = "..") = true ↔ IsStep text := by
  rw [Bool.or_eq_true, decide_eq_true_eq, decide_eq_true_eq, IsStep]

theorem appendSegment_of_isStep (segments : List String) {text : String} (step : IsStep text) :
    appendSegment scheme segments text = segments :=
  if_pos (isStep_iff.mpr step)

theorem appendSegment_of_not_isStep (segments : List String) {text : String}
    (named : ¬ IsStep text) :
    appendSegment scheme segments text =
      if shown text = ['.'] then appendWritten segments ""
      else if shown text = ['.', '.'] then
        if segments = [""] then segments else segments.dropLast ++ [""]
      else if isFileScheme scheme && isDriveName (shown text) &&
          (segments = [""] || segments = []) then
        [String.ofList ((shown text).take 1 ++ [':'])]
      else appendWritten segments (writtenName scheme text) :=
  if_neg (mt isStep_iff.mp named)

/-- A text that only shows as the step to the outer folder takes the last segment away. -/
theorem appendSegment_of_outer {segments : List String} {text : String} (named : ¬ IsStep text)
    (outer : shown text = ['.', '.']) (inside : segments ≠ [""]) :
    appendSegment scheme segments text = segments.dropLast ++ [""] := by
  rw [appendSegment_of_not_isStep segments named, outer, if_neg (by decide), if_pos rfl,
    if_neg inside]

/-- Whether a text is a name in a path, also after what vanishes in it is gone. -/
def IsName (text : String) : Prop :=
  ¬ IsStep text ∧ shown text ≠ ['.'] ∧ shown text ≠ ['.', '.']

instance instDecidableIsName (text : String) : Decidable (IsName text) :=
  inferInstanceAs (Decidable (¬ IsStep text ∧ shown text ≠ ['.'] ∧ shown text ≠ ['.', '.']))

/-- Where nothing vanishes, every text that is no step is a name. -/
theorem isName_of_isVisible {text : String} (visible : IsVisible text) (named : ¬ IsStep text) :
    IsName text := by
  have same : shown text = text.toList := shown_eq_toList visible
  refine ⟨named, ?_, ?_⟩
  · intro dot
    exact named (Or.inl (String.toList_inj.mp (same.symm.trans dot)))
  · intro dots
    exact named (Or.inr (String.toList_inj.mp (same.symm.trans dots)))

theorem appendSegment_of_isName {segments : List String} {text : String} (name : IsName text)
    (noDrive : isDriveName (shown text) = false ∨ (segments ≠ [""] ∧ segments ≠ [])) :
    appendSegment scheme segments text = front segments ++ [writtenName scheme text] := by
  obtain ⟨named, notSame, notOuter⟩ := name
  have kept : ¬ (isFileScheme scheme && isDriveName (shown text) &&
      (segments = [""] || segments = [])) = true := by
    rcases noDrive with drive | ⟨notLone, notNil⟩
    · simp only [drive, Bool.and_false, Bool.false_and, Bool.false_eq_true, not_false_eq_true]
    · simp only [notLone, notNil, decide_false, Bool.or_self, Bool.and_false,
        Bool.false_eq_true, not_false_eq_true]
  rw [appendSegment_of_not_isStep segments named, if_neg notSame, if_neg notOuter, if_neg kept,
    appendWritten_eq]

/-- A name that is written as it stands, wherever it is added. -/
def IsPlain (text : String) : Prop :=
  IsName text ∧ isDriveName (shown text) = false ∧ IsVisible text ∧
    text.toList.any specialSegmentSet = false

instance instDecidableIsPlain (text : String) : Decidable (IsPlain text) :=
  inferInstanceAs (Decidable (_ ∧ _ ∧ IsVisible text ∧ _))

theorem appendSegment_of_isPlain (segments : List String) {text : String}
    (plain : IsPlain text) :
    appendSegment scheme segments text = front segments ++ [text] := by
  obtain ⟨name, noDrive, visible, allowed⟩ := plain
  rw [appendSegment_of_isName name (Or.inl noDrive), writtenName_eq_self visible allowed]

/-! ### The path that is added to -/

def lessFinalSlash (text : String) : String :=
  if text.toList.getLast? = some '/' then String.ofList text.toList.dropLast else text

theorem slashFree_dropEmptyEnd {segments : List String} (free : SlashFree segments) :
    SlashFree (dropEmptyEnd segments) := by
  unfold dropEmptyEnd
  split
  · exact fun segment member => free segment (List.dropLast_subset segments member)
  · exact free

theorem toList_segmentsText_concat (segments : List String) (segment : String) :
    (segmentsText (segments ++ [segment])).toList =
      (segmentsText segments).toList ++ '/' :: segment.toList := by
  rw [segmentsText_append, String.toList_append, segmentsText_cons, String.toList_append,
    String.toList_append]
  simp [segmentsText]

theorem lessFinalSlash_segmentsText_concat_empty (segments : List String) :
    lessFinalSlash (segmentsText (segments ++ [""])) = segmentsText segments := by
  have written := toList_segmentsText_concat segments ""
  rw [String.toList_empty] at written
  rw [lessFinalSlash, written, List.getLast?_concat, if_pos rfl, List.dropLast_concat,
    String.ofList_toList]

theorem lessFinalSlash_segmentsText_concat {segments : List String} {segment : String}
    (nonempty : segment ≠ "") (free : '/' ∉ segment.toList) :
    lessFinalSlash (segmentsText (segments ++ [segment])) =
      segmentsText (segments ++ [segment]) := by
  refine if_neg ?_
  intro slash
  have filled : segment.toList ≠ [] := mt String.toList_eq_nil_iff.mp nonempty
  rw [toList_segmentsText_concat, List.append_cons,
    List.getLast?_append_of_ne_nil _ filled] at slash
  exact free (List.mem_of_getLast? slash)

theorem segmentsText_concat_eq_two_slashes_iff {segments : List String} {segment : String}
    (free : SlashFree (segments ++ [segment])) :
    segmentsText (segments ++ [segment]) = "//" ↔ segments = [""] ∧ segment = "" := by
  constructor
  · intro same
    have bare : SlashFree ([""] ++ [""]) := by
      have slash : '/' ∉ "".toList := by decide
      exact slashFree_cons.mpr ⟨slash, slashFree_cons.mpr ⟨slash, slashFree_nil⟩⟩
    have both := segmentsText_injective free bare same
    exact ⟨List.append_inj_left' both rfl,
      List.singleton_inj.mp (List.append_inj_right' both rfl)⟩
  · rintro ⟨rfl, rfl⟩
    rfl

theorem dropEmptyEnd_concat_empty {segments : List String} (filled : segments ≠ []) :
    dropEmptyEnd (segments ++ [""]) = segments := by
  have longer : 1 < (segments ++ [""]).length := by
    have counted : 0 < segments.length := List.length_pos_iff.mpr filled
    rw [List.length_append, List.length_singleton]
    omega
  rw [dropEmptyEnd, List.getLast?_concat, if_pos (by simpa using longer), List.dropLast_concat]

theorem dropEmptyEnd_concat {segments : List String} {segment : String}
    (nonempty : segment ≠ "") : dropEmptyEnd (segments ++ [segment]) = segments ++ [segment] := by
  rw [dropEmptyEnd, List.getLast?_concat, if_neg (by simp [nonempty])]

/-- Segments are added behind the text of a path less one slash at its end. Only of the path of
two slashes nothing stays. -/
theorem segmentsText_front_dropEmptyEnd {segments : List String} (free : SlashFree segments) :
    segmentsText (front (dropEmptyEnd segments)) =
      if segmentsText segments = "//" then "" else lessFinalSlash (segmentsText segments) := by
  rcases List.eq_nil_or_concat' segments with rfl | ⟨outer, last, rfl⟩
  · rfl
  · by_cases empty : last = ""
    · subst empty
      rw [lessFinalSlash_segmentsText_concat_empty]
      by_cases lone : outer = []
      · subst lone
        rfl
      · rw [dropEmptyEnd_concat_empty lone]
        by_cases twoSlashes : outer = [""]
        · subst twoSlashes
          rfl
        · have longer : segmentsText (outer ++ [""]) ≠ "//" := fun same =>
            twoSlashes ((segmentsText_concat_eq_two_slashes_iff free).mp same).1
          rw [if_neg longer, front, if_neg twoSlashes]
    · have longer : segmentsText (outer ++ [last]) ≠ "//" := fun same =>
        empty ((segmentsText_concat_eq_two_slashes_iff free).mp same).2
      have slash : '/' ∉ last.toList := free last List.mem_concat_self
      rw [dropEmptyEnd_concat empty, front_concat (Or.inr empty), if_neg longer,
        lessFinalSlash_segmentsText_concat empty slash]

/-! ### The text of a longer path -/

/-- What stands in front of a path is the same for paths that start with the same names. -/
theorem authorityText_append (url : Url) (outer first second : List String) {name : String}
    (nonempty : name ≠ "") :
    authorityText { url with path := .segments (outer ++ name :: first) } =
      authorityText { url with path := .segments (outer ++ name :: second) } := by
  unfold authorityText
  dsimp only
  cases url.authority with
  | some authority => rfl
  | none =>
      cases outer with
      | nil => simp [nonempty]
      | cons start inner =>
          by_cases empty : start = ""
          · subst empty
            cases inner with
            | nil => rfl
            | cons next others => rfl
          · simp [empty]

theorem text_append_inj (url : Url) {outer first second : List String} {name : String}
    (nonempty : name ≠ "") (firstFree : SlashFree (outer ++ name :: first))
    (secondFree : SlashFree (outer ++ name :: second)) :
    text { url with path := .segments (outer ++ name :: first) } =
      text { url with path := .segments (outer ++ name :: second) } ↔ first = second := by
  have before := authorityText_append url outer first second nonempty
  unfold text textWithoutFragment
  rw [before]
  dsimp only [Path.text]
  rw [String.append_left_inj, String.append_left_inj, String.append_right_inj]
  constructor
  · intro same
    have whole := segmentsText_injective firstFree secondFree same
    exact (List.cons.inj (List.append_cancel_left whole)).2
  · rintro rfl
    rfl

end Url
end BuildNotices
