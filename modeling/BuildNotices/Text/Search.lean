import BuildNotices.Text.Blank
/-!
Parts of texts: occurrences, fields between separators, first lines.
-/

namespace BuildNotices
namespace Text

def occurs (part : List Char) : List Char → Bool
  | [] => part.isEmpty
  | c :: rest => part.isPrefixOf (c :: rest) || occurs part rest

def contains (text part : String) : Bool :=
  occurs part.toList text.toList

/-- Whether a text holds the mark that stands between a URL scheme and a host. -/
def hasSchemeMark (text : String) : Bool :=
  contains text "://"

def fields (separator : Char) : List Char → List (List Char)
  | [] => [[]]
  | c :: rest =>
      if c = separator then
        [] :: fields separator rest
      else
        match fields separator rest with
        | [] => [[c]]
        | first :: others => (c :: first) :: others

/-- The fields of a text between separators, where all blanks around a separator belong to it. The
flag tells whether the text stands behind a separator that takes further blanks. -/
def spacedFields (separator : Char) (behind : Bool) : List Char → List (List Char)
  | [] => [[]]
  | c :: rest =>
      if c = separator then
        [] :: spacedFields separator true rest
      else if isBlank c && (behind || (rest.dropWhile isBlank).head? = some separator) then
        spacedFields separator behind rest
      else
        match spacedFields separator false rest with
        | [] => [[c]]
        | first :: others => (c :: first) :: others

/-- A text up to its first line feed, less a carriage return directly in front of it. -/
def firstLine (text : String) : String :=
  let chars := text.toList
  let line := chars.takeWhile (· ≠ '\n')
  if line.length < chars.length && line.getLast? = some '\r' then
    String.ofList line.dropLast
  else
    String.ofList line

theorem fields_ne_nil (separator : Char) (chars : List Char) :
    fields separator chars ≠ [] := by
  cases chars with
  | nil => simp [fields]
  | cons c rest =>
      unfold fields
      split
      · simp
      · split <;> simp

example : fields ',' "a,,b".toList = ["a".toList, [], "b".toList] := by decide

example : spacedFields ',' false "a b , ,c".toList = ["a b".toList, [], "c".toList] := by decide

end Text
end BuildNotices
