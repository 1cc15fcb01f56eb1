import BuildNotices.Unicode.Direction
import BuildNotices.Unicode.DomainData
import BuildNotices.Unicode.Mark
import BuildNotices.Url.Host
import BuildNotices.Url.Punycode
/-!
Domain names in their ASCII form.

The characters of a name are mapped and normalized first, which also unites upper and
lower case. Then each label with characters outside ASCII is encoded. A label may be given
encoded; what it stands for has to be a label that mapping leaves as it is.
-/

namespace BuildNotices
namespace Url

open Text Unicode

def isForbiddenInDomain (c : Char) : Bool :=
  c.toNat ≤ 0x20 || c.toNat = 0x7F || "#%/:<>?@[\\]^|".toList.contains c

def isAscii (c : Char) : Bool :=
  c.toNat < 0x80

def encodedMark : List Char := ['x', 'n', '-', '-']

/-! ### Mapping -/

def domainRows : List Row := readTable domainText

def mapChar? (c : Char) : Option (List Char) :=
  (rowOf? domainRows c.toNat).map fun row =>
    match row.numbers with
    | none => [c]
    | some [] => []
    | some [point] => [Char.ofNat (point + (c.toNat - row.first))]
    | some points => points.map Char.ofNat

def mapText? (chars : List Char) : Option (List Char) :=
  (chars.mapM mapChar?).map fun mapped => normalized mapped.flatten

/-! ### Labels -/

structure Label where
  shown : List Char
  ascii : List Char
deriving Repr, DecidableEq

def isWellFormed (label : List Char) : Bool :=
  !(label.head?.any isMark) && joinersFit [] label

def readEncoded? (rest : List Char) : Option (List Char) :=
  (Punycode.decode? rest).filter fun label =>
    !label.all isAscii && !encodedMark.isPrefixOf label && mapText? label = some label

def readLabel? (label : List Char) : Option Label := do
  let shown ← if encodedMark.isPrefixOf label then readEncoded? (label.drop encodedMark.length)
    else some label
  guard (isWellFormed shown)
  let ascii := if label.all isAscii then label else encodedMark ++ Punycode.encode label
  return { shown, ascii }

/-- The labels of a mapped name. In a name with a label from right to left every label
keeps to its direction. -/
def readLabels? (name : List Char) : Option (List Label) :=
  ((fields '.' name).mapM readLabel?).filter fun labels =>
    !(labels.any (·.shown.any turnsDirection)) || labels.all (keepsDirection ·.shown)

/-! ### Names -/

def encodeDomain? (name : List Char) : Option (List Char) := do
  let mapped ← mapText? name
  let labels ← readLabels? mapped
  return ['.'].intercalate (labels.map Label.ascii)

/-- Whether a name in lower case is its own ASCII form. -/
def isPlainDomain (name : List Char) : Bool :=
  name.all isAscii && !(fields '.' name).any encodedMark.isPrefixOf

def domainToAscii? (name : String) : Option String :=
  let lowered := (lowerAscii name).toList
  let ascii := if isPlainDomain lowered then some lowered else encodeDomain? lowered
  (ascii.filter fun chars => !chars.any isForbiddenInDomain).map String.ofList

def readDomainHost (chars : List Char) : Except Fault Host :=
  match readBracketed? chars with
  | some result => result
  | none =>
      match (decode? chars).bind domainToAscii? with
      | none => .error .invalidDomain
      | some domain =>
          if domain.isEmpty then .error .emptyHost
          else if endsInNumber domain.toList then (readIpv4 domain.toList).map .ipv4
          else .ok (.name domain)

end Url
end BuildNotices
