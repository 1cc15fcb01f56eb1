import BuildNotices.Error
import BuildNotices.Notification.Basic
import BuildNotices.Notification.Record
/-!
Settings for each category.

A table has at most one entry for each category. Explicit entries replace the
built-in ones; an entry that is disabled, like one that is missing, means that
nothing is sent.
-/

namespace BuildNotices

structure CategorySettings where
  category : Category
  enabled : Bool := true
  notify : Bool := false
  /-- Whether messages are shown as plain text. -/
  plainText : Bool := false
  color : Color
  icon : Option String := none
  /-- The template of the message; a blank one means the built-in template. -/
  template : String := ""
deriving Repr, DecidableEq, Inhabited

namespace CategorySettings

def builtIn (category : Category) : CategorySettings :=
  match category with
  | .started => { category, enabled := false, notify := false, color := .green }
  | .success => { category, enabled := false, notify := false, color := .green }
  | .failure => { category, enabled := true, notify := true, color := .red }
  | .unstable => { category, enabled := true, notify := true, color := .yellow }
  | .aborted => { category, enabled := true, notify := false, color := .gray }
  | .notBuilt => { category, enabled := true, notify := false, color := .gray }
  | .backToNormal => { category, enabled := true, notify := false, color := .green }

def format (settings : CategorySettings) : MessageFormat :=
  .ofPlainText settings.plainText

end CategorySettings

/-- The settings of some categories, at most one entry for each. -/
structure NotificationTable where
  entry : Category → Option CategorySettings
  /-- Every entry is stored under its own category. -/
  filed : ∀ category settings, entry category = some settings → settings.category = category

namespace NotificationTable

def empty : NotificationTable where
  entry := fun _ => none
  filed := fun _ _ impossible => nomatch impossible

def builtIn : NotificationTable where
  entry := fun category => some (.builtIn category)
  filed := by
    intro category settings found
    rw [← Option.some.inj found]
    cases category <;> rfl

def insert (table : NotificationTable) (settings : CategorySettings) : NotificationTable where
  entry := fun category =>
    if category = settings.category then some settings else table.entry category
  filed := by
    intro category stored found
    split at found
    next same =>
      rw [← Option.some.inj found]
      exact same.symm
    next => exact table.filed category stored found

/-- Adds explicit entries; the first one that repeats a category is refused. -/
def insertAll : NotificationTable → List CategorySettings → Except NoticeError NotificationTable
  | table, [] => .ok table
  | table, settings :: rest =>
      if (table.entry settings.category).isSome then
        .error (.configuration
          ("Duplicate notification entry for category " ++ settings.category.name))
      else
        (table.insert settings).insertAll rest

def ofEntries (entries : List CategorySettings) : Except NoticeError NotificationTable :=
  empty.insertAll entries

def withFallback (table defaults : NotificationTable) : NotificationTable where
  entry := fun category => table.entry category <|> defaults.entry category
  filed := by
    intro category settings found
    cases present : table.entry category with
    | some stored =>
        rw [present] at found
        exact Option.some.inj found ▸ table.filed category stored present
    | none =>
        rw [present] at found
        exact defaults.filed category settings found

def withDefaults (entries : List CategorySettings) : Except NoticeError NotificationTable :=
  (ofEntries entries).map fun table => table.withFallback builtIn

def select (table : NotificationTable) (category : Category) : Option CategorySettings :=
  (table.entry category).filter CategorySettings.enabled

def toList (table : NotificationTable) : List CategorySettings :=
  Category.all.filterMap table.entry

/-- Tables with the same entries are equal. -/
theorem ext_entry {left right : NotificationTable}
    (same : ∀ category, left.entry category = right.entry category) : left = right := by
  have equal : left.entry = right.entry := funext same
  cases left
  cases right
  cases equal
  rfl

end NotificationTable

/-! ### As JSON documents -/

open Json

namespace CategorySettings

def fields : List (RecordField CategorySettings) :=
  [ .mandatory "category" Category.read fun category settings => { settings with category },
    .withDefault "enabled" readFlag fun enabled settings => { settings with enabled },
    .withDefault "notify" readFlag fun notify settings => { settings with notify },
    .withDefault "text_format" readFlag fun plainText settings => { settings with plainText },
    .mandatory "color" Color.read fun color settings => { settings with color },
    .withDefault "icon" (readOptional readText) fun icon settings => { settings with icon },
    .withDefault "message_template" readText fun template settings =>
      { settings with template } ]

def read : Reader CategorySettings :=
  readRecord fields { category := .started, color := .yellow }

def toJson (settings : CategorySettings) : Json :=
  .object
    ([ ("category", .string settings.category.name),
       ("enabled", .boolean settings.enabled),
       ("notify", .boolean settings.notify),
       ("text_format", .boolean settings.plainText),
       ("color", .string settings.color.name) ] ++
      (settings.icon.map fun icon => ("icon", Json.string icon)).toList ++
      [ ("message_template", .string settings.template) ])

end CategorySettings
end BuildNotices
