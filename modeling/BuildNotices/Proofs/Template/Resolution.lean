import BuildNotices.Proofs.Template.Modifier
import BuildNotices.Proofs.Template.Reference
import BuildNotices.Proofs.Text.Html
/-!
Resolution in one pass.

A text that does not end inside of a reference can be resolved apart from what follows it.
So the value of a reference is put in as it is: the pass never looks at it again, and
nothing in it can meet the text around it.
-/

namespace BuildNotices
namespace Template

open Text

variable (bindings : Variables)

/-! ### Steps of the pass -/

@[simp]
theorem resolveChars_nil : resolveChars bindings [] = [] := by
  rw [resolveChars]

theorem resolveChars_of_some {chars after : List Char} {reference : Reference}
    (found : reference? chars = some (reference, after)) :
    resolveChars bindings chars =
      (expand bindings reference).toList ++ resolveChars bindings after := by
  cases chars with
  | nil => simp [reference?] at found
  | cons c rest =>
      rw [resolveChars]
      split
      next other behind same =>
        rw [found] at same
        cases same
        rfl
      next missing =>
        rw [found] at missing
        cases missing

theorem resolveChars_of_none {c : Char} {rest : List Char}
    (missing : reference? (c :: rest) = none) :
    resolveChars bindings (c :: rest) = c :: resolveChars bindings rest := by
  rw [resolveChars]
  split
  next reference after found =>
    rw [missing] at found
    cases found
  next => rfl

/-! ### Cutting a text in two -/

/-- No ending of a text is the beginning of a reference. -/
def IsClosed (chars : List Char) : Prop :=
  ∀ ending, ending <:+ chars → ¬ IsOpen ending

theorem IsClosed.of_suffix {chars ending : List Char} (closed : IsClosed chars)
    (suffix : ending <:+ chars) : IsClosed ending :=
  fun inner innerSuffix => closed inner (innerSuffix.trans suffix)

theorem reference?_append_eq_none {chars rest : List Char} (ended : ¬ IsOpen chars)
    (begun : chars ≠ []) (missing : reference? chars = none) :
    reference? (chars ++ rest) = none := by
  cases found : reference? (chars ++ rest) with
  | none => rfl
  | some result =>
      obtain ⟨reference, after⟩ := result
      obtain ⟨written, split⟩ := reference?_eq_some_iff.mp found
      have textPrefix : reference.text <+: chars ++ rest := split ▸ List.prefix_append _ _
      -- Such a reference ends inside of the first text, or with it, or goes beyond it.
      rcases List.prefix_or_prefix_of_prefix textPrefix (List.prefix_append chars rest) with
        ⟨inner, inside⟩ | across
      · have whole := reference?_text_append written inner
        rw [inside, missing] at whole
        cases whole
      · by_cases same : chars = reference.text
        · have whole := reference?_text_append written []
          rw [List.append_nil, ← same, missing] at whole
          cases whole
        · exact absurd (isOpen_iff.mpr ⟨begun, reference, written, across, same⟩) ended

/-- A closed text is resolved apart from what follows it. -/
theorem resolveChars_append {first : List Char} (closed : IsClosed first)
    (second : List Char) :
    resolveChars bindings (first ++ second) =
      resolveChars bindings first ++ resolveChars bindings second := by
  -- By the cases of the pass: what one step leaves is an ending, so it is closed as well.
  induction first using resolveChars.induct with
  | case1 => simp
  | case2 c rest reference after found ih =>
      obtain ⟨written, split⟩ := reference?_eq_some_iff.mp found
      have longer : reference? (c :: rest ++ second) = some (reference, after ++ second) := by
        rw [split, List.append_assoc]
        exact reference?_text_append written (after ++ second)
      have suffix : after <:+ c :: rest := split ▸ List.suffix_append _ _
      rw [resolveChars_of_some bindings longer, resolveChars_of_some bindings found,
        ih (closed.of_suffix suffix), List.append_assoc]
  | case3 c rest missing ih =>
      have longer : reference? (c :: (rest ++ second)) = none :=
        reference?_append_eq_none (closed _ List.suffix_rfl) (List.cons_ne_nil c rest) missing
      rw [List.cons_append, resolveChars_of_none bindings longer,
        resolveChars_of_none bindings missing, ih (closed.of_suffix (List.suffix_cons c rest)),
        List.cons_append]

/-- Nothing is open behind a text that opens nothing and does not end in a dollar sign. -/
theorem isClosed_of_unopened {chars : List Char} (unopened : ¬ ['$', '\x7b'] <:+: chars)
    (ended : chars.getLast? ≠ some '$') : IsClosed chars := by
  intro ending suffix halfway
  have opening (behind : List Char) (same : ending = ['$', '\x7b'] ++ behind) : False :=
    unopened ((same ▸ (List.prefix_append _ behind).isInfix).trans suffix.isInfix)
  cases halfway with
  | sign =>
      obtain ⟨front, rfl⟩ := suffix
      exact ended List.getLast?_concat
  | brace => exact opening [] rfl
  | name named => exact opening _ rfl
  | modifiers named unclosed => exact opening _ rfl

/-! ### One reference -/

theorem resolveChars_text {reference : Reference} (written : reference.WellFormed) :
    resolveChars bindings reference.text = (expand bindings reference).toList := by
  have found := reference?_text_append written []
  rw [List.append_nil] at found
  rw [resolveChars_of_some bindings found, resolveChars_nil, List.append_nil]

theorem expand_eq {reference : Reference}
    (ordinary : String.ofList reference.name ≠ ReservedName.commitMessage.text) :
    expand bindings reference =
      if EscapesLast reference.modifiers then
        Html.escape (bindings.value (String.ofList reference.name))
      else
        bindings.value (String.ofList reference.name) := by
  unfold expand
  rw [if_neg ordinary]
  simp only [escapeFlag_eq_true_iff]

theorem resolve_append {first second : String} (closed : IsClosed first.toList) :
    resolve (first ++ second) bindings = resolve first bindings ++ resolve second bindings := by
  unfold resolve
  rw [String.toList_append, resolveChars_append bindings closed, String.ofList_append]

theorem resolve_text_append {reference : Reference} (written : reference.WellFormed)
    (second : String) :
    resolve (String.ofList reference.text ++ second) bindings =
      expand bindings reference ++ resolve second bindings := by
  unfold resolve
  rw [String.toList_append, String.toList_ofList,
    resolveChars_of_some bindings (reference?_text_append written second.toList),
    String.ofList_append, String.ofList_toList]

/-! ### Texts without references -/

/-- A complete reference stands somewhere in a text. -/
def HasReference (chars : List Char) : Prop :=
  ∃ reference : Reference, reference.WellFormed ∧ reference.text <:+: chars

theorem not_hasReference_of_unopened {template : String}
    (unopened : contains template "$\x7b" = false) : ¬ HasReference template.toList := by
  rintro ⟨reference, _, inside⟩
  have opening : "$\x7b".toList <+: reference.text := ⟨_, rfl⟩
  rw [contains_eq_true_iff.mpr (opening.isInfix.trans inside)] at unopened
  cases unopened

theorem resolveChars_eq_self {chars : List Char} (plain : ¬ HasReference chars) :
    resolveChars bindings chars = chars := by
  induction chars with
  | nil => exact resolveChars_nil bindings
  | cons c rest ih =>
      have missing : reference? (c :: rest) = none := by
        cases found : reference? (c :: rest) with
        | none => rfl
        | some result =>
            obtain ⟨written, split⟩ := reference?_eq_some_iff.mp found
            exact absurd ⟨_, written, split ▸ (List.prefix_append _ _).isInfix⟩ plain
      have behind : ¬ HasReference rest := by
        rintro ⟨reference, written, inside⟩
        exact plain ⟨reference, written, List.infix_cons inside⟩
      rw [resolveChars_of_none bindings missing, ih behind]

theorem resolve_eq_self {template : String} (plain : ¬ HasReference template.toList) :
    resolve template bindings = template := by
  rw [resolve, resolveChars_eq_self bindings plain, String.ofList_toList]

/-! ### Composition -/

/-- Resolution is a single pass from left to right: it can be cut behind every closed
text, a reference gives its value, escaped if its last flag says so, and the value stays
as it is wherever it is put in. What is escaped is read in HTML as the value. A text without the
opening of a reference is not touched. -/
theorem resolution_composes :
    (∀ first second : String, IsClosed first.toList →
      resolve (first ++ second) bindings =
        resolve first bindings ++ resolve second bindings) ∧
    (∀ reference : Reference, reference.WellFormed →
      String.ofList reference.name ≠ ReservedName.commitMessage.text →
      resolve (String.ofList reference.text) bindings =
          (if EscapesLast reference.modifiers then
            Html.escape (bindings.value (String.ofList reference.name))
          else
            bindings.value (String.ofList reference.name)) ∧
        (EscapesLast reference.modifiers →
          Html.Writes (resolve (String.ofList reference.text) bindings)
            (bindings.value (String.ofList reference.name)))) ∧
    (∀ (before after : String) (reference : Reference), IsClosed before.toList →
      reference.WellFormed →
      resolve (before ++ String.ofList reference.text ++ after) bindings =
        resolve before bindings ++ resolve (String.ofList reference.text) bindings ++
          resolve after bindings) ∧
    (∀ template : String, contains template "$\x7b" = false →
      resolve template bindings = template) := by
  have alone (reference : Reference) (written : reference.WellFormed) :
      resolve (String.ofList reference.text) bindings = expand bindings reference := by
    rw [resolve, String.toList_ofList, resolveChars_text bindings written,
      String.ofList_toList]
  refine ⟨?_, ?_, ?_, ?_⟩
  · intro first second closed
    exact resolve_append bindings closed
  · intro reference written ordinary
    rw [alone reference written, expand_eq bindings ordinary]
    refine ⟨rfl, fun escapes => ?_⟩
    rw [if_pos escapes]
    exact Html.escape_writes _
  · intro before after reference closed written
    rw [String.append_assoc, resolve_append bindings closed,
      resolve_text_append bindings written, alone reference written, String.append_assoc]
  · intro template plain
    exact resolve_eq_self bindings (not_hasReference_of_unopened plain)

/-- A value that looks like a reference stands between a dollar sign and that reference. -/
theorem value_like_a_reference_is_copied :
    let bindings : Variables := (Dictionary.empty.insert "A" "$\x7bB\x7d<").insert "B" "text"
    let first : Reference := ⟨"A".toList, ",escape=no, escape = TRUE".toList⟩
    let second : Reference := ⟨"B".toList, []⟩
    IsClosed "5$ ".toList ∧ first.WellFormed ∧ EscapesLast first.modifiers ∧
      Html.Writes (resolve (String.ofList first.text) bindings) "$\x7bB\x7d<" ∧
      second.WellFormed ∧ ¬ EscapesLast second.modifiers ∧
      resolve ("5$ " ++ String.ofList first.text ++ String.ofList second.text) bindings =
        "5$ $\x7bB\x7d&lt;text" := by
  intro bindings first second
  obtain ⟨_, one, put, untouched⟩ := resolution_composes bindings
  have closed : IsClosed "5$ ".toList := isClosed_of_unopened (by decide) (by decide)
  have firstWritten : first.WellFormed :=
    ⟨⟨'A', [], rfl, rfl, List.forall_mem_nil _⟩, Or.inr ⟨_, rfl, by decide⟩⟩
  have secondWritten : second.WellFormed :=
    ⟨⟨'B', [], rfl, rfl, List.forall_mem_nil _⟩, Or.inl rfl⟩
  have escapes : EscapesLast first.modifiers := by decide +kernel
  have plain : ¬ EscapesLast second.modifiers := by decide +kernel
  obtain ⟨firstValue, read⟩ := one first firstWritten (by decide)
  obtain ⟨secondValue, _⟩ := one second secondWritten (by decide)
  refine ⟨closed, firstWritten, escapes, read escapes, secondWritten, plain, ?_⟩
  rw [put "5$ " _ first closed firstWritten, untouched "5$ " rfl, firstValue, if_pos escapes,
    secondValue, if_neg plain]
  decide +kernel

end Template
end BuildNotices
