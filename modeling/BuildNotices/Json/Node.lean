import BuildNotices.Json.Token
/-!
JSON texts as trees that remember their places.

The tree of a malformed text is cut at the first token that does not fit: that
token becomes the last leaf, or closes every container that is still open. A
reader that walks the tree from left to right therefore meets the fault exactly
where a reader of the text would, and may stop earlier for reasons of its own.
-/

namespace BuildNotices
namespace Json

inductive Node where
  | leaf (lexeme : Lexeme)
  | array (opening : Place) (items : List Node) (closing : Lexeme)
  /-- A member is its name, its value, and the place of the token behind the value. -/
  | object (opening : Place) (members : List (Lexeme × Node × Place)) (closing : Lexeme)
deriving Inhabited

abbrev Node.Member : Type := Lexeme × Node × Place

def Node.place : Node → Place
  | .leaf lexeme => lexeme.place
  | .array opening _ _ => opening
  | .object opening _ _ => opening

/-- A container that is still open; what it holds so far is listed in reverse. -/
inductive Enclosing where
  | array (opening : Place) (items : List Node)
  | object (opening : Place) (members : List Node.Member) (name : Lexeme)

def Enclosing.close (container : Enclosing) (last : Node) (closing : Lexeme) : Node :=
  match container with
  | .array opening items => .array opening (last :: items).reverse closing
  | .object opening members name =>
      .object opening ((name, last, closing.place) :: members).reverse closing

inductive Expected where
  | value
  | itemOrEnd (opening : Place)
  | nameOrEnd (opening : Place)
  | name (opening : Place) (members : List Node.Member)
  | colon (opening : Place) (members : List Node.Member) (name : Lexeme)
  /-- A value has just ended; what may follow depends on what encloses it. -/
  | behind (value : Node)

structure Document where
  root : Node
  behind : Lexeme

def breakOff (last : Node) (enclosing : List Enclosing) (lexeme : Lexeme) : Document :=
  { root := enclosing.foldl (fun node container => container.close node lexeme) last
    behind := lexeme }

/-- The object that breaks off where a name was expected. A string that breaks off
counts as a name. -/
def breakOffName (opening : Place) (members : List Node.Member)
    (enclosing : List Enclosing) (lexeme : Lexeme) : Document :=
  let members := match lexeme.token with
    | .broken '\x22' _ _ => (lexeme, Node.leaf lexeme, lexeme.place) :: members
    | _ => members
  breakOff (.object opening members.reverse lexeme) enclosing lexeme

/-- A leaf at which every reader stops in front of a token. -/
def missing (lexeme : Lexeme) : Node :=
  .leaf ⟨lexeme.place, .broken ' ' lexeme.place.through lexeme.place.through⟩

def readDocument : List Lexeme → Expected → List Enclosing → Document
  | [], _, enclosing =>
      -- Not reached: nothing is read behind the last token, which ends the text or is broken.
      let nothing : Lexeme := ⟨⟨0, 0⟩, .finish⟩
      breakOff (.leaf nothing) enclosing nothing
  | lexeme :: rest, expected, enclosing =>
      let readValue (enclosing : List Enclosing) : Document :=
        match lexeme.token with
        | .scalar _ _ => readDocument rest (.behind (.leaf lexeme)) enclosing
        | .openBrace => readDocument rest (.nameOrEnd lexeme.place) enclosing
        | .openBracket => readDocument rest (.itemOrEnd lexeme.place) enclosing
        | _ => breakOff (.leaf lexeme) enclosing lexeme
      match expected with
      | .value => readValue enclosing
      | .itemOrEnd opening =>
          match lexeme.token with
          | .closeBracket =>
              readDocument rest (.behind (.array opening [] lexeme)) enclosing
          | _ => readValue (.array opening [] :: enclosing)
      | .nameOrEnd opening =>
          match lexeme.token with
          | .closeBrace =>
              readDocument rest (.behind (.object opening [] lexeme)) enclosing
          | .scalar (.string _) _ => readDocument rest (.colon opening [] lexeme) enclosing
          | _ => breakOffName opening [] enclosing lexeme
      | .name opening members =>
          match lexeme.token with
          | .scalar (.string _) _ =>
              readDocument rest (.colon opening members lexeme) enclosing
          | _ => breakOffName opening members enclosing lexeme
      | .colon opening members name =>
          match lexeme.token with
          | .colon => readDocument rest .value (.object opening members name :: enclosing)
          | _ =>
              breakOff (missing lexeme) (.object opening members name :: enclosing) lexeme
      | .behind value =>
          match enclosing, lexeme.token with
          | [], _ => { root := value, behind := lexeme }
          | .array opening items :: outer, .comma =>
              readDocument rest .value (.array opening (value :: items) :: outer)
          | .object opening members name :: outer, .comma =>
              readDocument rest
                (.name opening ((name, value, lexeme.place) :: members)) outer
          | container@(.array _ _) :: outer, .closeBracket =>
              readDocument rest (.behind (container.close value lexeme)) outer
          | container@(.object _ _ _) :: outer, .closeBrace =>
              readDocument rest (.behind (container.close value lexeme)) outer
          | _, _ => breakOff value enclosing lexeme

def document (text : String) : Document :=
  readDocument (lexemes text) .value []

/-! ### The tree of a document that was not read from a text -/

def nowhere : Place := ⟨0, 0⟩

mutual

def Node.ofJson : Json → Node
  | .array items => .array nowhere (Node.ofItems items) ⟨nowhere, .closeBracket⟩
  | .object members => .object nowhere (Node.ofMembers members) ⟨nowhere, .closeBrace⟩
  | value => .leaf ⟨nowhere, .scalar value none⟩

def Node.ofItems : List Json → List Node
  | [] => []
  | item :: rest => Node.ofJson item :: Node.ofItems rest

def Node.ofMembers : List (String × Json) → List Node.Member
  | [] => []
  | (name, value) :: rest =>
      (⟨nowhere, .scalar (.string name) none⟩, Node.ofJson value, nowhere) ::
        Node.ofMembers rest

end

end Json
end BuildNotices
