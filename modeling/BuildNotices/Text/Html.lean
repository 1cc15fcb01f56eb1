/-!
HTML escaping of inserted values.

The ampersand, the angle brackets, the quote marks with the backtick, and the
equals sign are written as character references; every other character stays.
-/

namespace BuildNotices
namespace Text
namespace Html

def escapeChar (c : Char) : List Char :=
  match c with
  | '&' => "&amp;".toList
  | '<' => "&lt;".toList
  | '>' => "&gt;".toList
  | '\x22' => "&quot;".toList
  | '\x27' => "&#x27;".toList
  | '\x60' => "&#x60;".toList
  | '=' => "&#x3D;".toList
  | other => [other]

def escape (text : String) : String :=
  String.ofList (text.toList.flatMap escapeChar)

@[simp]
theorem escape_empty : escape "" = "" := rfl

end Html
end Text
end BuildNotices
