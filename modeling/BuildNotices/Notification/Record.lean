import BuildNotices.Category
import BuildNotices.Json.Record
import BuildNotices.Notification.Basic
/-!
Notifications, cards and categories as JSON documents.
-/

namespace BuildNotices

open Json

/-! ### Reading -/

def Category.read : Reader Category :=
  readChoice (all.map fun category => .plain category.name category)

def Color.read : Reader Color :=
  readChoice (all.map fun color => .plain color.name color)

def MessageFormat.read : Reader MessageFormat :=
  readChoice (all.map fun format => .plain format.name format)

def AttributeStyle.read : Reader AttributeStyle :=
  readChoice (all.map fun style => .plain style.name style)

def CardAttribute.fields : List (RecordField CardAttribute) :=
  [ .mandatory "label" readText fun label line => { line with label },
    .mandatory "value" readText fun value line => { line with value },
    .of .inArrays "style" (readOptional AttributeStyle.read) fun style line =>
      { line with style },
    .of .inArrays "url" (readOptional readText) fun url line => { line with url } ]

def CardAttribute.read : Reader CardAttribute :=
  readRecord fields default

def Card.fields : List (RecordField Card) :=
  [ .mandatory "style" readText fun style card => { card with style },
    .mandatory "url" readText fun url card => { card with url },
    .mandatory "format" readText fun format card => { card with format },
    .mandatory "id" readText fun id card => { card with id },
    .mandatory "title" readText fun title card => { card with title },
    .mandatory "icon" readText fun icon card => { card with icon },
    .mandatory "attributes" (readList CardAttribute.read) fun attributes card =>
      { card with attributes },
    .mandatory "activity_html" readText fun activityHtml card => { card with activityHtml } ]

def Card.read : Reader Card :=
  readRecord fields default

/-! ### Writing -/

def CardAttribute.toJson (line : CardAttribute) : Json :=
  .object
    [ ("label", .string line.label),
      ("value", .string line.value),
      ("style", ofText? (line.style.map AttributeStyle.name)),
      ("url", ofText? line.url) ]

def Card.toJson (card : Card) : Json :=
  .object
    [ ("style", .string card.style),
      ("url", .string card.url),
      ("format", .string card.format),
      ("id", .string card.id),
      ("title", .string card.title),
      ("icon", .string card.icon),
      ("attributes", .array (card.attributes.map CardAttribute.toJson)),
      ("activity_html", .string card.activityHtml) ]

def Notification.toJson (notification : Notification) : Json :=
  .object
    [ ("message", .string notification.message),
      ("color", .string notification.color.name),
      ("notify", .boolean notification.notify),
      ("format", .string notification.format.name),
      ("card", ofOption Card.toJson notification.card) ]

end BuildNotices
