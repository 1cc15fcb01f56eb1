import BuildNotices.Proofs.Template.Resolution
import BuildNotices.Proofs.Variables.Changes
/-!
The commit message in templates.

A run keeps its commit message in two forms, and what escapes the one is what a flag does to the
other. So a reference to the commit message is a reference to its text that is escaped unless a
flag says otherwise, and nothing is escaped twice.
-/

namespace BuildNotices

open Text

/-! ### The two forms -/

/-- The variables of a run, with those of a category over them where one is given. -/
def Run.variablesUnder (run : Run) (server : Option String) (now : Instant) :
    Option Category → Variables
  | none => run.allVariables server now
  | some category => (run.allVariables server now).forCategory category

/-- The source control knows the files of every change. -/
def Run.TellsCommit (run : Run) (changes : List Change) : Prop :=
  run.changes = some changes ∧ ∀ change ∈ changes, change.affectedFiles ≠ .unsupported

theorem Run.tellAbout_variablesUnder (run : Run) (server : Option String) (now : Instant)
    (category : Option Category) :
    (run.variablesUnder server now category).TellAbout run server now := by
  have telling := Variables.tellAbout_allVariables run server now
  cases category with
  | none => exact telling
  | some category => exact telling.forCategory category

theorem Run.changeReport_of_tellsCommit {run : Run} {changes : List Change}
    (tells : run.TellsCommit changes) :
    ∃ summary, run.changeReport =
      .complete summary ((changes.getLast?.map fun change => firstLine change.message).getD "") := by
  obtain ⟨given, supported⟩ := tells
  have every := all_isSupported_iff.mpr supported
  unfold changeReport
  rw [given]
  exact ⟨_, if_pos every⟩

theorem Run.changeReport_of_silent {run : Run} (silent : ∀ changes, ¬ run.TellsCommit changes) :
    run.changeReport = .absent ∨ ∃ summary, run.changeReport = .incomplete summary := by
  unfold changeReport
  cases given : run.changes with
  | none => exact Or.inl rfl
  | some changes =>
      have partly : ¬ changes.all Change.isSupported = true := fun every =>
        silent changes ⟨given, all_isSupported_iff.mp every⟩
      exact Or.inr ⟨_, if_neg partly⟩

namespace Variables.TellAbout

variable {bindings : Variables} {run : Run} {server : Option String} {now : Instant}

theorem value_of_complete (telling : bindings.TellAbout run server now) {summary : Option String}
    {message : String} (report : run.changeReport = .complete summary message) :
    bindings.value ReservedName.commitMessage.text = Html.escape message ∧
      bindings.value ReservedName.commitMessageText.text = message := by
  constructor
  · exact telling.value_of_mem (by simp [Run.ownVariables, Run.changeVariables, report])
  · exact telling.value_of_mem (by simp [Run.ownVariables, Run.changeVariables, report])

theorem value_of_absent (telling : bindings.TellAbout run server now)
    (report : run.changeReport = .absent) :
    bindings.value ReservedName.commitMessage.text = "" ∧
      bindings.value ReservedName.commitMessageText.text = "" := by
  constructor
  · exact telling.value_of_mem (by simp [Run.ownVariables, Run.changeVariables, report])
  · exact telling.value_of_mem (by simp [Run.ownVariables, Run.changeVariables, report])

theorem value_of_incomplete (telling : bindings.TellAbout run server now) {summary : String}
    (report : run.changeReport = .incomplete summary) :
    bindings.value ReservedName.commitMessage.text = "" ∧
      bindings.value ReservedName.commitMessageText.text = "" := by
  have incomplete : run.changeReport.isIncomplete = true := by
    rw [report]
    rfl
  constructor
  · exact congrArg (Option.getD · "") (telling.read?_eq_none_of_isIncomplete rfl incomplete)
  · exact congrArg (Option.getD · "") (telling.read?_eq_none_of_isIncomplete rfl incomplete)

theorem value_of_silent (telling : bindings.TellAbout run server now)
    (silent : ∀ changes, ¬ run.TellsCommit changes) :
    bindings.value ReservedName.commitMessage.text = "" ∧
      bindings.value ReservedName.commitMessageText.text = "" := by
  rcases Run.changeReport_of_silent silent with absent | ⟨summary, incomplete⟩
  · exact telling.value_of_absent absent
  · exact telling.value_of_incomplete incomplete

/-- One of the two forms is always the other one, escaped. -/
theorem value_commitMessage (telling : bindings.TellAbout run server now) :
    bindings.value ReservedName.commitMessage.text =
      Html.escape (bindings.value ReservedName.commitMessageText.text) := by
  cases report : run.changeReport with
  | absent =>
      obtain ⟨escaped, plain⟩ := telling.value_of_absent report
      rw [escaped, plain, Html.escape_empty]
  | incomplete summary =>
      obtain ⟨escaped, plain⟩ := telling.value_of_incomplete report
      rw [escaped, plain, Html.escape_empty]
  | complete summary message =>
      obtain ⟨escaped, plain⟩ := telling.value_of_complete report
      rw [escaped, plain]

end Variables.TellAbout

/-! ### References to the two forms -/

namespace Template

def referenceTo (name : ReservedName) (modifiers : List Char) : String :=
  "$\x7b" ++ name.text ++ String.ofList modifiers ++ "\x7d"

theorem isName_text (name : ReservedName) : IsName name.text.toList := by
  cases name <;> exact ⟨_, _, rfl, rfl, List.all_eq_true.mp rfl⟩

theorem resolve_referenceTo (bindings : Variables) (name : ReservedName) {modifiers : List Char}
    (listed : AreModifiers modifiers) :
    resolve (referenceTo name modifiers) bindings =
      expand bindings ⟨name.text.toList, modifiers⟩ := by
  have written : Reference.WellFormed ⟨name.text.toList, modifiers⟩ := ⟨isName_text name, listed⟩
  have text : (referenceTo name modifiers).toList =
      Reference.text ⟨name.text.toList, modifiers⟩ := by
    simp [referenceTo, Reference.text]
  rw [resolve, text, resolveChars_text bindings written, String.ofList_toList]

theorem expand_commitMessage (bindings : Variables) (modifiers : List Char) :
    expand bindings ⟨ReservedName.commitMessage.text.toList, modifiers⟩ =
      if escapeFlag modifiers = some false then
        bindings.value ReservedName.commitMessageText.text
      else
        bindings.value ReservedName.commitMessage.text := by
  unfold expand
  rw [String.ofList_toList, if_pos rfl]

theorem expand_commitMessageText (bindings : Variables) (modifiers : List Char) :
    expand bindings ⟨ReservedName.commitMessageText.text.toList, modifiers⟩ =
      if escapeFlag modifiers = some true then
        Html.escape (bindings.value ReservedName.commitMessageText.text)
      else
        bindings.value ReservedName.commitMessageText.text := by
  unfold expand
  rw [String.ofList_toList, if_neg (by decide)]

section Escaping

variable {bindings : Variables}
  (forms : bindings.value ReservedName.commitMessage.text =
    Html.escape (bindings.value ReservedName.commitMessageText.text))
  {modifiers : List Char} (listed : AreModifiers modifiers)

include forms listed

/-- Under a flag the commit message and its text are resolved alike. -/
theorem resolve_commitMessage_of_setsFlag (sets : SetsFlag modifiers) :
    resolve (referenceTo .commitMessage modifiers) bindings =
        resolve (referenceTo .commitMessageText modifiers) bindings ∧
      resolve (referenceTo .commitMessage modifiers) bindings =
        if EscapesLast modifiers then
          Html.escape (bindings.value ReservedName.commitMessageText.text)
        else
          bindings.value ReservedName.commitMessageText.text := by
  rw [resolve_referenceTo _ _ listed, resolve_referenceTo _ _ listed, expand_commitMessage,
    expand_commitMessageText, forms]
  simp only [← escapeFlag_eq_true_iff]
  cases found : escapeFlag modifiers with
  | none => exact absurd sets (escapeFlag_eq_none_iff.mp found)
  | some flag => cases flag <;> exact ⟨rfl, rfl⟩

/-- Without a flag the commit message is its text, escaped. -/
theorem resolve_commitMessage_of_not_setsFlag (silent : ¬ SetsFlag modifiers) :
    resolve (referenceTo .commitMessage modifiers) bindings =
        resolve (referenceTo .commitMessageText ",escape=true".toList) bindings ∧
      resolve (referenceTo .commitMessage modifiers) bindings =
        Html.escape (bindings.value ReservedName.commitMessageText.text) := by
  have flag : escapeFlag modifiers = none := escapeFlag_eq_none_iff.mpr silent
  have escaping : escapeFlag ",escape=true".toList = some true := by decide
  have closed : AreModifiers ",escape=true".toList := Or.inr ⟨_, rfl, by decide⟩
  rw [resolve_referenceTo _ _ listed, resolve_referenceTo _ _ closed, expand_commitMessage,
    expand_commitMessageText, forms, flag, escaping]
  exact ⟨rfl, rfl⟩

end Escaping

/-! ### Escaped once -/

/-- Every reference to the commit message gives the text of the commit message, escaped unless
its flag says otherwise, as the text with the same flag would be. Escaped, it is read in HTML as
this text. The text is the first line of the last change if the files of all changes are known, and
nothing else. -/
theorem commit_message_is_escaped_once (run : Run) (server : Option String) (now : Instant)
    (category : Option Category) :
    let bindings := run.variablesUnder server now category
    let text := resolve (referenceTo .commitMessageText []) bindings
    (∀ modifiers, AreModifiers modifiers →
      (SetsFlag modifiers →
        resolve (referenceTo .commitMessage modifiers) bindings =
            resolve (referenceTo .commitMessageText modifiers) bindings ∧
          resolve (referenceTo .commitMessage modifiers) bindings =
            if EscapesLast modifiers then Html.escape text else text) ∧
      (¬ SetsFlag modifiers →
        resolve (referenceTo .commitMessage modifiers) bindings =
            resolve (referenceTo .commitMessageText ",escape=true".toList) bindings ∧
          resolve (referenceTo .commitMessage modifiers) bindings = Html.escape text) ∧
      ((SetsFlag modifiers → EscapesLast modifiers) →
        Html.Writes (resolve (referenceTo .commitMessage modifiers) bindings) text)) ∧
    (∀ changes, run.TellsCommit changes →
      (changes = [] → text = "") ∧
      ∀ last, changes.getLast? = some last → IsFirstLine last.message.toList text.toList) ∧
    ((∀ changes, ¬ run.TellsCommit changes) →
      ∀ modifiers, AreModifiers modifiers →
        resolve (referenceTo .commitMessage modifiers) bindings = "" ∧
          resolve (referenceTo .commitMessageText modifiers) bindings = "") := by
  intro bindings text
  have telling : bindings.TellAbout run server now := run.tellAbout_variablesUnder server now category
  have forms := telling.value_commitMessage
  have plain : text = bindings.value ReservedName.commitMessageText.text := by
    change resolve _ bindings = _
    rw [resolve_referenceTo _ _ (Or.inl rfl), expand_commitMessageText]
    rfl
  refine ⟨?_, ?_, ?_⟩
  · intro modifiers listed
    rw [plain]
    have flagged := resolve_commitMessage_of_setsFlag forms listed
    have silent := resolve_commitMessage_of_not_setsFlag forms listed
    refine ⟨flagged, silent, fun escaping => ?_⟩
    by_cases sets : SetsFlag modifiers
    · rw [(flagged sets).2, if_pos (escaping sets)]
      exact Html.escape_writes _
    · rw [(silent sets).2]
      exact Html.escape_writes _
  · intro changes tells
    obtain ⟨summary, report⟩ := Run.changeReport_of_tellsCommit tells
    rw [plain, (telling.value_of_complete report).2]
    constructor
    · rintro rfl
      rfl
    · intro last final
      rw [final]
      exact isFirstLine_firstLine last.message
  · intro silent modifiers listed
    obtain ⟨escaped, raw⟩ := telling.value_of_silent silent
    rw [resolve_referenceTo _ _ listed, resolve_referenceTo _ _ listed, expand_commitMessage,
      expand_commitMessageText, escaped, raw, Html.escape_empty, ite_self, ite_self]
    exact ⟨rfl, rfl⟩

/-- A run whose last change has markup in the first of its two lines. -/
def markedRun : Run where
  changes := some [{ message := "start" }, { message := "a < b\r\nsecond" }]

/-- The message is read under a flag, under a list without flag, and where there are no changes. -/
theorem commit_message_of_marked_run :
    let resolved (run : Run) (modifiers : List Char) :=
      resolve (referenceTo .commitMessage modifiers)
        (run.variablesUnder none default (some .failure))
    let plainly := ", escape = no".toList
    let silently := ",note".toList
    (AreModifiers plainly ∧ SetsFlag plainly ∧ ¬ EscapesLast plainly ∧
        resolved markedRun plainly = "a < b") ∧
      (AreModifiers silently ∧ ¬ SetsFlag silently ∧
        resolved markedRun silently = "a &lt; b" ∧
        Html.Writes (resolved markedRun silently) "a < b") ∧
      (∃ last, markedRun.TellsCommit [{ message := "start" }, last] ∧
        IsFirstLine last.message.toList "a < b".toList) ∧
      (∀ changes, ¬ Run.TellsCommit {} changes) ∧ resolved {} silently = "" := by
  intro resolved plainly silently
  obtain ⟨forms, first, _⟩ :=
    commit_message_is_escaped_once markedRun none default (some .failure)
  obtain ⟨_, _, nothing⟩ := commit_message_is_escaped_once {} none default (some .failure)
  have text : resolve (referenceTo .commitMessageText [])
      (markedRun.variablesUnder none default (some .failure)) = "a < b" := by decide +kernel
  rw [text] at forms first
  have plainList : AreModifiers plainly := Or.inr ⟨_, rfl, by decide⟩
  have silentList : AreModifiers silently := Or.inr ⟨_, rfl, by decide⟩
  have sets : SetsFlag plainly :=
    ⟨_, by decide, " no".toList, " escape ".toList, rfl, by decide, by decide⟩
  have plain : ¬ EscapesLast plainly := by decide +kernel
  have silent : ¬ SetsFlag silently := escapeFlag_eq_none_iff.mp (by decide +kernel)
  have tells : markedRun.TellsCommit [{ message := "start" }, { message := "a < b\r\nsecond" }] :=
    ⟨rfl, by decide⟩
  have absent : ∀ changes, ¬ Run.TellsCommit {} changes := by
    rintro changes ⟨missing, _⟩
    cases missing
  obtain ⟨flagged, _⟩ := forms plainly plainList
  obtain ⟨_, unflagged, read⟩ := forms silently silentList
  refine ⟨⟨plainList, sets, plain, ?_⟩, ⟨silentList, silent, (unflagged silent).2, ?_⟩,
    ⟨_, tells, (first _ tells).2 _ rfl⟩, absent, (nothing absent silently silentList).1⟩
  · exact (flagged sets).2.trans (if_neg plain)
  · exact read fun given => absurd given silent

end Template
end BuildNotices
