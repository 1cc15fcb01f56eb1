import BuildNotices.Text.Blank
import BuildNotices.Text.Html
import BuildNotices.Text.Search
import BuildNotices.Variables.Basic
/-!
Message templates.

A reference is a dollar sign and braces around a name, with modifiers behind a
comma. Resolution replaces every reference from left to right in one pass: what was
put in is not looked at again, and text that is no complete reference stays as it
is. A name without value gives nothing.

The modifier `escape=true` escapes a value for HTML. The commit message is kept in
both forms, and the one variable for it is escaped unless its reference says
otherwise.
-/

namespace BuildNotices

open Text

namespace Template

/-- A reference to a variable; the modifiers keep the comma in front of them. -/
structure Reference where
  name : List Char
  modifiers : List Char
deriving Repr, DecidableEq

def isNameStart (c : Char) : Bool :=
  c.isAlpha || c = '_'

def isNameChar (c : Char) : Bool :=
  c.isAlphanum || c = '_'

def reference? : List Char → Option (Reference × List Char)
  | '$' :: '\x7b' :: rest =>
      let name := rest.takeWhile isNameChar
      let behind := rest.dropWhile isNameChar
      if (name.head?.any isNameStart) && (behind.head? = some '\x7d' || behind.head? = some ',')
      then
        match behind.dropWhile (· ≠ '\x7d') with
        | _ :: after => some (⟨name, behind.takeWhile (· ≠ '\x7d')⟩, after)
        | [] => none
      else
        none
  | _ => none

private theorem length_dropWhile_le (drop : Char → Bool) (chars : List Char) :
    (chars.dropWhile drop).length ≤ chars.length :=
  (List.dropWhile_sublist drop).length_le

/-- A reference takes at least one character. -/
theorem reference?_shortens {chars after : List Char} {reference : Reference}
    (found : reference? chars = some (reference, after)) : after.length < chars.length := by
  unfold reference? at found
  split at found
  next rest =>
    simp only at found
    split at found
    · split at found
      next _ tail split =>
        have same : tail = after := by
          have pair := Option.some.inj found
          exact congrArg Prod.snd pair
        have first := length_dropWhile_le (fun c => decide (c ≠ '\x7d'))
          (rest.dropWhile isNameChar)
        have second := length_dropWhile_le isNameChar rest
        rw [split] at first
        simp only [List.length_cons] at first ⊢
        rw [← same]
        omega
      · cases found
    · cases found
  · cases found

/-! ### Modifiers -/

def flag? (modifier : List Char) : Option Bool :=
  match modifier.dropWhile (· ≠ '=') with
  | _ :: value =>
      if trim (modifier.takeWhile (· ≠ '=')) = "escape".toList then
        let word := stripWhile (· = '\x22') (trim value)
        some (word.map Char.toLower = "true".toList)
      else
        none
  | [] => none

/-- What a list of modifiers says about escaping; the last one that says anything
counts. -/
def escapeFlag (modifiers : List Char) : Option Bool :=
  ((fields ',' modifiers).filterMap flag?).getLast?

/-! ### Resolution -/

def expand (bindings : Variables) (reference : Reference) : String :=
  let name := String.ofList reference.name
  let escape := escapeFlag reference.modifiers
  if name = ReservedName.commitMessage.text then
    if escape = some false then
      bindings.value ReservedName.commitMessageText.text
    else
      bindings.value ReservedName.commitMessage.text
  else if escape = some true then
    Html.escape (bindings.value name)
  else
    bindings.value name

def resolveChars (bindings : Variables) (chars : List Char) : List Char :=
  match chars with
  | [] => []
  | c :: rest =>
      match _found : reference? (c :: rest) with
      | some (reference, after) =>
          -- The pass goes on behind the reference, so it never sees the value again.
          (expand bindings reference).toList ++ resolveChars bindings after
      | none => c :: resolveChars bindings rest
termination_by chars.length
decreasing_by
  · exact reference?_shortens _found
  · simp

def resolve (template : String) (bindings : Variables) : String :=
  String.ofList (resolveChars bindings template.toList)

/-! ### Messages of a category -/

def startTemplate : String :=
  "$\x7bJOB_DISPLAY_NAME\x7d - $\x7bBUILD_DISPLAY_NAME\x7d: $\x7bSTATUS\x7d " ++
    "($\x7bCHANGES_OR_CAUSE\x7d) (<a href=\"$\x7bURL\x7d\">Open</a>)"

def completedTemplate : String :=
  "$\x7bJOB_DISPLAY_NAME\x7d - $\x7bBUILD_DISPLAY_NAME\x7d: $\x7bSTATUS\x7d " ++
    "after $\x7bDURATION\x7d (<a href=\"$\x7bURL\x7d\">Open</a>)"

def builtIn (category : Category) : String :=
  if category.isStart then startTemplate else completedTemplate

def effective (category : Category) (template : String) : String :=
  if allBlank template then builtIn category else template

/-- The message for a category, resolved with the variables of the run and those that
depend on the category. -/
def message (category : Category) (template : String) (bindings : Variables) : String :=
  -- Bindings that have the two variables already are listed with them.
  resolve (effective category template) (Variables.forCategory bindings category)

end Template
end BuildNotices
