import BuildNotices.Text.Blank
import BuildNotices.Text.Digits
/-!
Notifications and the cards attached to them.
-/

namespace BuildNotices

open Text

inductive Color where
  | yellow
  | green
  | red
  | purple
  | gray
  | random
deriving Repr, DecidableEq, Inhabited

namespace Color

def all : List Color :=
  [.yellow, .green, .red, .purple, .gray, .random]

def name : Color → String
  | .yellow => "yellow"
  | .green => "green"
  | .red => "red"
  | .purple => "purple"
  | .gray => "gray"
  | .random => "random"

/-- The color with a name in any ASCII case and with blanks around it. A name that no
color has comes back as it was compared. -/
def parse (text : String) : Except String Color :=
  let wanted := lowerAscii (trimmed text)
  if wanted = "grey" then
    .ok .gray
  else
    match all.find? fun color => color.name == wanted with
    | some color => .ok color
    | none => .error wanted

def unknownName (name : String) : String :=
  "unknown color '" ++ name ++ "' (expected yellow, green, red, purple, gray or random)"

end Color

inductive MessageFormat where
  | text
  | html
deriving Repr, DecidableEq, Inhabited

namespace MessageFormat

def all : List MessageFormat := [.text, .html]

def name : MessageFormat → String
  | .text => "text"
  | .html => "html"

def ofPlainText (plain : Bool) : MessageFormat :=
  if plain then .text else .html

end MessageFormat

inductive AttributeStyle where
  | success
  | error
  | current
deriving Repr, DecidableEq, Inhabited

namespace AttributeStyle

def all : List AttributeStyle := [.success, .error, .current]

def name : AttributeStyle → String
  | .success => "lozenge-success"
  | .error => "lozenge-error"
  | .current => "lozenge-current"

end AttributeStyle

structure CardAttribute where
  label : String
  value : String
  style : Option AttributeStyle := none
  url : Option String := none
deriving Repr, DecidableEq, Inhabited

namespace CardAttribute

def styled (label value : String) (style : AttributeStyle) : CardAttribute :=
  { label, value, style := some style }

def link (label value url : String) : CardAttribute :=
  { label, value, url := some url }

end CardAttribute

structure Card where
  style : String
  url : String
  format : String
  id : String
  title : String
  icon : String
  attributes : List CardAttribute
  activityHtml : String
deriving Repr, DecidableEq, Inhabited

structure Notification where
  message : String
  color : Color
  /-- Whether the members of the room are alerted. -/
  notify : Bool
  format : MessageFormat
  card : Option Card := none
deriving Repr, DecidableEq, Inhabited

/-- A plain message that alerts for any color but green. -/
def Notification.ofColor (message : String) (color : Color) : Notification :=
  { message, color, notify := color ≠ .green, format := .html }

end BuildNotices
