import BuildNotices.Proofs.Json.Number
import BuildNotices.Proofs.Json.Pretty
import BuildNotices.Proofs.Json.Spelling
/-!
Compact texts read back.

The compact text of a document is a text of this document: its tokens are found one after the
other, and the tree that is built of them spells the document.
-/

namespace BuildNotices
namespace Json

open Text

/-- A document whose numbers can be written and read. -/
inductive IsLegible : Json → Prop where
  | null : IsLegible .null
  | boolean (value : Bool) : IsLegible (.boolean value)
  | integer {value : Int} (fits : Numeral.Fits value) : IsLegible (.integer value)
  /-- A number with a fraction or an exponent, or one that is no integer of 64 bits. -/
  | decimal {numeral : Numeral} (wellFormed : numeral.IsWellFormed)
      (inRange : numeral.IsInRange) (noInteger : numeral.parts.integer? = none) :
      IsLegible (.decimal (String.ofList numeral.chars))
  | string (text : String) : IsLegible (.string text)
  | array {items : List Json} (each : ∀ item ∈ items, IsLegible item) : IsLegible (.array items)
  | object {members : List (String × Json)} (each : ∀ member ∈ members, IsLegible member.2) :
      IsLegible (.object members)

namespace IsLegible

theorem noItems : (Json.array []).IsLegible :=
  .array (List.forall_mem_nil _)

theorem item {first : Json} {rest : List Json} (legible : first.IsLegible)
    (others : (Json.array rest).IsLegible) : (Json.array (first :: rest)).IsLegible := by
  cases others with
  | array each => exact .array (List.forall_mem_cons.mpr ⟨legible, each⟩)

theorem noMembers : (Json.object []).IsLegible :=
  .object (List.forall_mem_nil _)

theorem member {name : String} {value : Json} {rest : List (String × Json)}
    (legible : value.IsLegible) (others : (Json.object rest).IsLegible) :
    (Json.object ((name, value) :: rest)).IsLegible := by
  cases others with
  | object each => exact .object (List.forall_mem_cons.mpr ⟨legible, each⟩)

end IsLegible

/-! ### Tokens -/

section Tokens

variable {rest : List Char}

theorem lexemesFrom_token {first : Char} {others : List Char} {offset next : Nat} {token : Token}
    (solid : isSpace first = false)
    (scanned : scanToken first (others ++ rest) offset = ⟨token, others.length + 1, next⟩)
    (whole : ∀ c kept skipped, token ≠ .broken c kept skipped) :
    lexemesFrom (first :: (others ++ rest)) offset =
      ⟨⟨offset, offset + 1⟩, token⟩ :: lexemesFrom rest next := by
  rw [lexemesFrom, solid]
  simp only [scanned, Bool.false_eq_true, if_false, Nat.add_sub_cancel, List.drop_left]

inductive IsMark : Char → Token → Prop where
  | openBrace : IsMark '\x7b' .openBrace
  | closeBrace : IsMark '\x7d' .closeBrace
  | openBracket : IsMark '[' .openBracket
  | closeBracket : IsMark ']' .closeBracket
  | comma : IsMark ',' .comma
  | colon : IsMark ':' .colon

theorem lexemesFrom_mark {mark : Char} {token : Token} (isMark : IsMark mark token)
    (offset : Nat) :
    lexemesFrom (mark :: rest) offset =
      ⟨⟨offset, offset + 1⟩, token⟩ :: lexemesFrom rest (offset + 1) := by
  have whole : ∀ c kept skipped, token ≠ .broken c kept skipped := by
    cases isMark <;> exact fun _ _ _ => Token.noConfusion
  have solid : isSpace mark = false := by
    cases isMark <;> rfl
  have scanned : scanToken mark rest offset = ⟨token, 1, offset + 1⟩ := by
    cases isMark <;> rfl
  exact @lexemesFrom_token rest mark [] offset (offset + 1) token solid scanned whole

theorem wordFault?_append (word : List Char) (offset : Nat) :
    wordFault? word (word ++ rest) offset = none := by
  induction word generalizing offset with
  | nil => rfl
  | cons c word ih =>
      rw [List.cons_append, wordFault?, if_pos rfl]
      exact ih _

theorem scanWord_append (first : Char) (word : List Char) (value : Json) (offset : Nat) :
    scanWord first word value (word ++ rest) offset =
      ⟨.scalar value none, word.length + 1, offset + (1 + word.length)⟩ := by
  unfold scanWord
  rw [wordFault?_append]
  dsimp only [Scan.ascii]
  rw [Nat.add_comm 1]

/-- The first character of a number shows that it is one. -/
theorem scanToken_of_number {first : Char} (number : first = '-' ∨ isDigit first = true)
    (rest : List Char) (offset : Nat) :
    isSpace first = false ∧ scanToken first rest offset = scanNumber first rest offset := by
  have different {c : Char} (visible : c ≠ '-') (other : isDigit c = false) : first ≠ c := by
    rintro rfl
    rcases number with same | digit
    · exact visible same
    · rw [other] at digit
      cases digit
  have starts : (first = '-' || isDigit first) = true := by
    rcases number with rfl | digit
    · rfl
    · rw [digit, Bool.or_true]
  refine ⟨?_, ?_⟩
  · unfold isSpace
    simp [different (by decide : ' ' ≠ '-') rfl, different (by decide : '\n' ≠ '-') rfl,
      different (by decide : '\t' ≠ '-') rfl, different (by decide : '\r' ≠ '-') rfl]
  · unfold scanToken
    split
    case h_11 => rw [if_pos starts]
    all_goals exact absurd rfl (different (by decide) rfl)

/-- A character of a string is read from its written form. -/
theorem scanString_escapeChar (c : Char) (rest : List Char) {scan : StringScan}
    (noHigh : scan.high = none) (unrefused : scan.refusal = none) :
    ∃ offset, scanString (escapeChar c ++ rest) scan =
      scanString rest
        { width := scan.width + (escapeChar c).length
          offset
          reversed := c :: scan.reversed
          high := none
          refusal := none } := by
  obtain ⟨width, offset, reversed, high, refusal⟩ := scan
  dsimp only at noHigh unrefused
  subst noHigh unrefused
  unfold escapeChar
  split
  case h_8 notQuote notBackslash _ _ _ _ _ =>
    split
    next control =>
      have unit := hexNumber?_control control
      have low : ¬(0xDC00 ≤ c.toNat) := by omega
      have high : ¬(0xD800 ≤ c.toNat) := by omega
      refine ⟨offset + 6, ?_⟩
      simp only [List.cons_append, List.nil_append]
      rw [scanString, unit]
      simp [StringScan.pushUnit, low, high, Char.ofNat_toNat]
    next printed =>
      refine ⟨offset + c.utf8Size, ?_⟩
      rw [List.singleton_append, scanString, if_neg printed]
      · rfl
      · exact notQuote
      all_goals
        intros
        exact notBackslash ‹_›
  all_goals exact ⟨_, rfl⟩

theorem scanString_quoted (chars rest : List Char) {scan : StringScan}
    (noHigh : scan.high = none) (unrefused : scan.refusal = none) :
    ∃ offset, scanString (chars.flatMap escapeChar ++ '\x22' :: rest) scan =
      ⟨.scalar (.string (String.ofList (scan.reversed.reverse ++ chars))) none,
        scan.width + (chars.flatMap escapeChar).length + 2, offset⟩ := by
  induction chars generalizing scan with
  | nil =>
      refine ⟨scan.offset + 1, ?_⟩
      rw [List.flatMap_nil, List.nil_append, scanString]
      simp [StringScan.push, noHigh, unrefused]
      omega
  | cons c chars ih =>
      obtain ⟨between, read⟩ :=
        scanString_escapeChar c (chars.flatMap escapeChar ++ '\x22' :: rest) noHigh unrefused
      obtain ⟨offset, readRest⟩ := @ih
        ⟨scan.width + (escapeChar c).length, between, c :: scan.reversed, none, none⟩ rfl rfl
      refine ⟨offset, ?_⟩
      rw [List.flatMap_cons, List.append_assoc, read, readRest]
      simp [Nat.add_assoc]

theorem lexemesFrom_quoted (text : String) (rest : List Char) (offset : Nat) :
    ∃ next, lexemesFrom ((quoted text).toList ++ rest) offset =
      ⟨⟨offset, offset + 1⟩, .scalar (.string text) none⟩ :: lexemesFrom rest next := by
  obtain ⟨next, scanned⟩ := @scanString_quoted text.toList rest
    ⟨0, offset + 1, [], none, none⟩ rfl rfl
  refine ⟨next, ?_⟩
  have chars : (quoted text).toList ++ rest =
      '\x22' :: ((text.toList.flatMap escapeChar ++ ['\x22']) ++ rest) := by
    simp [quoted]
  rw [chars]
  refine lexemesFrom_token rfl ?_ (fun _ _ _ => Token.noConfusion)
  rw [List.append_assoc, List.singleton_append]
  refine scanned.trans ?_
  simp

theorem lexemesFrom_numeral {numeral : Numeral} (wellFormed : numeral.IsWellFormed)
    (inRange : numeral.IsInRange) (ends : EndsNumber rest) (offset : Nat) :
    ∃ next, lexemesFrom (numeral.chars ++ rest) offset =
      ⟨⟨offset, offset + 1⟩, .scalar numeral.value none⟩ :: lexemesFrom rest next := by
  obtain ⟨first, others, split, number⟩ := wellFormed.exists_cons
  obtain ⟨solid, scanned⟩ := scanToken_of_number number (others ++ rest) offset
  have length : numeral.chars.length = others.length + 1 := by rw [split, List.length_cons]
  rw [Numeral.scanNumber_chars wellFormed inRange ends split, length] at scanned
  rw [split, List.cons_append]
  exact ⟨_, lexemesFrom_token solid scanned (fun _ _ _ => Token.noConfusion)⟩

/-- The text of a scalar is one token, when what stands behind it does not continue it. -/
theorem lexemesFrom_scalarText {value : Json} (plain : value.IsScalar) (legible : value.IsLegible)
    (ends : EndsNumber rest) (offset : Nat) :
    ∃ next, lexemesFrom ((scalarText value).toList ++ rest) offset =
      ⟨⟨offset, offset + 1⟩, .scalar value none⟩ :: lexemesFrom rest next := by
  cases legible with
  | null =>
      exact ⟨_, lexemesFrom_token rfl (@scanWord_append rest 'n' "ull".toList .null offset)
        (fun _ _ _ => Token.noConfusion)⟩
  | boolean value =>
      cases value with
      | true =>
          exact ⟨_, lexemesFrom_token rfl
            (@scanWord_append rest 't' "rue".toList (.boolean true) offset)
            (fun _ _ _ => Token.noConfusion)⟩
      | false =>
          exact ⟨_, lexemesFrom_token rfl
            (@scanWord_append rest 'f' "alse".toList (.boolean false) offset)
            (fun _ _ _ => Token.noConfusion)⟩
  | @integer value fits =>
      have read := lexemesFrom_numeral (Numeral.isWellFormed_ofInt value)
        (Numeral.isInRange_ofInt fits) ends offset
      rw [Numeral.chars_ofInt, Numeral.value_ofInt fits] at read
      exact read
  | @decimal numeral wellFormed inRange noInteger =>
      have read := lexemesFrom_numeral wellFormed inRange ends offset
      rw [Numeral.value, noInteger] at read
      rw [scalarText, String.toList_ofList]
      exact read
  | string text => exact lexemesFrom_quoted text rest offset
  | array => exact plain.elim
  | object => exact plain.elim

end Tokens

/-! ### Trees -/

inductive AwaitsValue : Expected → List Enclosing → List Enclosing → Prop where
  | value (enclosing : List Enclosing) : AwaitsValue .value enclosing enclosing
  | item (opening : Place) (enclosing : List Enclosing) :
      AwaitsValue (.itemOrEnd opening) enclosing (.array opening [] :: enclosing)

inductive AwaitsName : Expected → Place → List Node.Member → Prop where
  | first (opening : Place) : AwaitsName (.nameOrEnd opening) opening []
  | later (opening : Place) (members : List Node.Member) :
      AwaitsName (.name opening members) opening members

section Trees

variable {expected : Expected} {enclosing outer : List Enclosing} {lexemes : List Lexeme}
  {place : Place}

theorem readDocument_scalar {value : Json} (awaits : AwaitsValue expected enclosing outer) :
    readDocument (⟨place, .scalar value none⟩ :: lexemes) expected enclosing =
      readDocument lexemes (.behind (.leaf ⟨place, .scalar value none⟩)) outer := by
  cases awaits <;> rfl

theorem readDocument_openBracket (awaits : AwaitsValue expected enclosing outer) :
    readDocument (⟨place, .openBracket⟩ :: lexemes) expected enclosing =
      readDocument lexemes (.itemOrEnd place) outer := by
  cases awaits <;> rfl

theorem readDocument_openBrace (awaits : AwaitsValue expected enclosing outer) :
    readDocument (⟨place, .openBrace⟩ :: lexemes) expected enclosing =
      readDocument lexemes (.nameOrEnd place) outer := by
  cases awaits <;> rfl

theorem readDocument_name {opening : Place} {members : List Node.Member} {name : String}
    (awaits : AwaitsName expected opening members) :
    readDocument (⟨place, .scalar (.string name) none⟩ :: lexemes) expected enclosing =
      readDocument lexemes
        (.colon opening members ⟨place, .scalar (.string name) none⟩) enclosing := by
  cases awaits <;> rfl

theorem readDocument_colon {opening : Place} {members : List Node.Member} {name : Lexeme} :
    readDocument (⟨place, .colon⟩ :: lexemes) (.colon opening members name) outer =
      readDocument lexemes .value (.object opening members name :: outer) := rfl

theorem readDocument_nextItem {opening : Place} {last : Node} {before : List Node} :
    readDocument (⟨place, .comma⟩ :: lexemes) (.behind last) (.array opening before :: outer) =
      readDocument lexemes .value (.array opening (last :: before) :: outer) := rfl

theorem readDocument_lastItem {opening : Place} {last : Node} {before : List Node} :
    readDocument (⟨place, .closeBracket⟩ :: lexemes) (.behind last)
        (.array opening before :: outer) =
      readDocument lexemes
        (.behind (.array opening (last :: before).reverse ⟨place, .closeBracket⟩)) outer := rfl

theorem readDocument_nextMember {opening : Place} {last : Node} {before : List Node.Member}
    {name : Lexeme} :
    readDocument (⟨place, .comma⟩ :: lexemes) (.behind last)
        (.object opening before name :: outer) =
      readDocument lexemes (.name opening ((name, last, place) :: before)) outer := rfl

theorem readDocument_lastMember {opening : Place} {last : Node} {before : List Node.Member}
    {name : Lexeme} :
    readDocument (⟨place, .closeBrace⟩ :: lexemes) (.behind last)
        (.object opening before name :: outer) =
      readDocument lexemes
        (.behind (.object opening ((name, last, place) :: before).reverse ⟨place, .closeBrace⟩))
        outer := rfl

end Trees

/-- The text of a value is read as a tree of this value, wherever a value may begin and whatever
stands behind it. -/
def IsReadBack (value : Json) : Prop :=
  ∀ (rest : List Char) (expected : Expected) (enclosing outer : List Enclosing) (offset : Nat),
    EndsNumber rest → AwaitsValue expected enclosing outer →
      ∃ node next, Spells node value ∧
        readDocument (lexemesFrom ((compact value).toList ++ rest) offset) expected enclosing =
          readDocument (lexemesFrom rest next) (.behind node) outer

def laterItems (items : List Json) : List Char :=
  items.flatMap fun item => ',' :: (compact item).toList

def memberChars (member : String × Json) : List Char :=
  (quoted member.1).toList ++ ':' :: (compact member.2).toList

def laterMembers (members : List (String × Json)) : List Char :=
  members.flatMap fun member => ',' :: memberChars member

theorem toList_compactItems (first : Json) (rest : List Json) :
    (compactItems (first :: rest)).toList = (compact first).toList ++ laterItems rest := by
  induction rest generalizing first with
  | nil => simp [compactItems, laterItems]
  | cons next rest ih => simp [compactItems, laterItems, ih]

theorem toList_compactMembers (first : String × Json) (rest : List (String × Json)) :
    (compactMembers (first :: rest)).toList = memberChars first ++ laterMembers rest := by
  induction rest generalizing first with
  | nil => simp [compactMembers, memberChars, laterMembers]
  | cons next rest ih => simp [compactMembers, memberChars, laterMembers, ih]

section Containers

variable {rest : List Char} {outer : List Enclosing}

theorem endsNumber_laterItems (items : List Json) :
    EndsNumber (laterItems items ++ ']' :: rest) := by
  cases items with
  | nil => exact endsNumber_cons rfl (by decide) (by decide) (by decide) rest
  | cons item items => exact endsNumber_cons rfl (by decide) (by decide) (by decide) _

theorem endsNumber_laterMembers (members : List (String × Json)) :
    EndsNumber (laterMembers members ++ '\x7d' :: rest) := by
  cases members with
  | nil => exact endsNumber_cons rfl (by decide) (by decide) (by decide) rest
  | cons member members => exact endsNumber_cons rfl (by decide) (by decide) (by decide) _

/-- Behind an item, the other items are read up to the bracket. -/
theorem exists_laterItems {items : List Json} (each : ∀ item ∈ items, IsReadBack item)
    (opening : Place) (last : Node) (before : List Node) (offset : Nat) :
    ∃ nodes closing next, SpellsItems nodes items ∧
      readDocument (lexemesFrom (laterItems items ++ ']' :: rest) offset) (.behind last)
          (.array opening before :: outer) =
        readDocument (lexemesFrom rest next)
          (.behind (.array opening (before.reverse ++ last :: nodes) ⟨closing, .closeBracket⟩))
          outer := by
  induction items generalizing last before offset with
  | nil =>
      refine ⟨[], ⟨offset, offset + 1⟩, offset + 1, .nil, ?_⟩
      rw [laterItems, List.flatMap_nil, List.nil_append, lexemesFrom_mark .closeBracket,
        readDocument_lastItem, List.reverse_cons]
  | cons item items ih =>
      rw [List.forall_mem_cons] at each
      obtain ⟨node, between, spells, read⟩ := each.1 _ _ _ _ (offset + 1)
        (endsNumber_laterItems items) (.value (.array opening (last :: before) :: outer))
      obtain ⟨nodes, closing, next, others, readOthers⟩ :=
        ih each.2 node (last :: before) between
      refine ⟨node :: nodes, closing, next, .cons spells others, ?_⟩
      rw [laterItems, List.flatMap_cons, List.cons_append, List.cons_append,
        lexemesFrom_mark .comma, readDocument_nextItem, List.append_assoc]
      refine read.trans (readOthers.trans ?_)
      rw [List.reverse_cons, List.append_assoc, List.singleton_append]

/-- A member is read from its name on, up to the token behind its value. -/
theorem exists_member {member : String × Json} (isRead : IsReadBack member.2)
    {expected : Expected} {opening : Place} {before : List Node.Member}
    (awaits : AwaitsName expected opening before) {behind : List Char}
    (ends : EndsNumber behind) (offset : Nat) :
    ∃ place node next, Spells node member.2 ∧
      readDocument (lexemesFrom (memberChars member ++ behind) offset) expected outer =
        readDocument (lexemesFrom behind next) (.behind node)
          (.object opening before ⟨place, .scalar (.string member.1) none⟩ :: outer) := by
  obtain ⟨colon, named⟩ :=
    lexemesFrom_quoted member.1 (':' :: ((compact member.2).toList ++ behind)) offset
  obtain ⟨node, next, spells, read⟩ := isRead _ _ _ _ (colon + 1) ends
    (.value (.object opening before
      ⟨⟨offset, offset + 1⟩, .scalar (.string member.1) none⟩ :: outer))
  refine ⟨⟨offset, offset + 1⟩, node, next, spells, ?_⟩
  rw [memberChars, List.append_assoc, List.cons_append, named, readDocument_name awaits,
    lexemesFrom_mark .colon, readDocument_colon, read]

/-- Behind a member, the other members are read up to the brace. -/
theorem exists_laterMembers {members : List (String × Json)}
    (each : ∀ member ∈ members, IsReadBack member.2) (opening : Place) (name : Lexeme)
    (last : Node) (before : List Node.Member) (offset : Nat) :
    ∃ behind nodes closing next, SpellsMembers nodes members ∧
      readDocument (lexemesFrom (laterMembers members ++ '\x7d' :: rest) offset) (.behind last)
          (.object opening before name :: outer) =
        readDocument (lexemesFrom rest next)
          (.behind (.object opening (before.reverse ++ (name, last, behind) :: nodes)
            ⟨closing, .closeBrace⟩)) outer := by
  induction members generalizing name last before offset with
  | nil =>
      refine ⟨⟨offset, offset + 1⟩, [], ⟨offset, offset + 1⟩, offset + 1, .nil, ?_⟩
      rw [laterMembers, List.flatMap_nil, List.nil_append, lexemesFrom_mark .closeBrace,
        readDocument_lastMember, List.reverse_cons]
  | cons member members ih =>
      rw [List.forall_mem_cons] at each
      obtain ⟨place, node, between, spells, read⟩ := exists_member each.1
        (.later opening ((name, last, ⟨offset, offset + 1⟩) :: before))
        (endsNumber_laterMembers members) (offset + 1)
      obtain ⟨behind, nodes, closing, next, others, readOthers⟩ :=
        ih each.2 ⟨place, .scalar (.string member.1) none⟩ node
          ((name, last, ⟨offset, offset + 1⟩) :: before) between
      refine ⟨⟨offset, offset + 1⟩, (_, node, behind) :: nodes, closing, next,
        .cons place behind member.1 spells others, ?_⟩
      rw [laterMembers, List.flatMap_cons, List.cons_append, List.cons_append,
        lexemesFrom_mark .comma, readDocument_nextMember, List.append_assoc]
      refine read.trans (readOthers.trans ?_)
      rw [List.reverse_cons, List.append_assoc, List.singleton_append]

end Containers

theorem isReadBack_scalar {value : Json} (plain : value.IsScalar) (legible : value.IsLegible)
    (text : compact value = scalarText value) : IsReadBack value := by
  intro rest expected enclosing outer offset ends awaits
  obtain ⟨next, token⟩ := lexemesFrom_scalarText plain legible ends offset
  refine ⟨_, next, .scalar ⟨offset, offset + 1⟩ plain, ?_⟩
  rw [text, token, readDocument_scalar awaits]

theorem isReadBack_array {items : List Json} (each : ∀ item ∈ items, IsReadBack item) :
    IsReadBack (.array items) := by
  intro rest expected enclosing outer offset ends awaits
  cases items with
  | nil =>
      have text : (compact (.array [])).toList = ['[', ']'] := by simp [compact, compactItems]
      refine ⟨_, offset + 1 + 1, .array ⟨offset, offset + 1⟩
        ⟨offset + 1, offset + 1 + 1⟩ .nil, ?_⟩
      rw [text, List.cons_append, List.cons_append, List.nil_append,
        lexemesFrom_mark .openBracket, lexemesFrom_mark .closeBracket,
        readDocument_openBracket awaits]
      rfl
  | cons item items =>
      rw [List.forall_mem_cons] at each
      have text : (compact (.array (item :: items))).toList ++ rest =
          '[' :: ((compact item).toList ++ (laterItems items ++ ']' :: rest)) := by
        simp [compact, toList_compactItems]
      obtain ⟨node, between, spells, read⟩ := each.1 _ _ _ _ (offset + 1)
        (endsNumber_laterItems items) (.item ⟨offset, offset + 1⟩ outer)
      obtain ⟨nodes, closing, next, others, readOthers⟩ :=
        exists_laterItems each.2 ⟨offset, offset + 1⟩ node [] between
      refine ⟨_, next, .array ⟨offset, offset + 1⟩ closing (.cons spells others), ?_⟩
      rw [text, lexemesFrom_mark .openBracket, readDocument_openBracket awaits]
      exact read.trans readOthers

theorem isReadBack_object {members : List (String × Json)}
    (each : ∀ member ∈ members, IsReadBack member.2) : IsReadBack (.object members) := by
  intro rest expected enclosing outer offset ends awaits
  cases members with
  | nil =>
      have text : (compact (.object [])).toList = ['\x7b', '\x7d'] := by
        simp [compact, compactMembers]
      refine ⟨_, offset + 1 + 1, .object ⟨offset, offset + 1⟩
        ⟨offset + 1, offset + 1 + 1⟩ .nil, ?_⟩
      rw [text, List.cons_append, List.cons_append, List.nil_append,
        lexemesFrom_mark .openBrace, lexemesFrom_mark .closeBrace,
        readDocument_openBrace awaits]
      rfl
  | cons member members =>
      rw [List.forall_mem_cons] at each
      have text : (compact (.object (member :: members))).toList ++ rest =
          '\x7b' :: (memberChars member ++ (laterMembers members ++ '\x7d' :: rest)) := by
        simp [compact, toList_compactMembers]
      obtain ⟨place, node, between, spells, read⟩ := exists_member each.1
        (.first ⟨offset, offset + 1⟩) (endsNumber_laterMembers members) (offset + 1)
      obtain ⟨behind, nodes, closing, next, others, readOthers⟩ :=
        exists_laterMembers each.2 ⟨offset, offset + 1⟩
          ⟨place, .scalar (.string member.1) none⟩ node [] between
      refine ⟨_, next, .object ⟨offset, offset + 1⟩ closing
        (.cons place behind member.1 spells others), ?_⟩
      rw [text, lexemesFrom_mark .openBrace, readDocument_openBrace awaits]
      exact read.trans readOthers

theorem IsLegible.isReadBack {value : Json} (legible : value.IsLegible) : IsReadBack value := by
  induction legible with
  | null => exact isReadBack_scalar trivial .null rfl
  | boolean value => exact isReadBack_scalar trivial (.boolean value) rfl
  | integer fits => exact isReadBack_scalar trivial (.integer fits) rfl
  | decimal wellFormed inRange noInteger =>
      exact isReadBack_scalar trivial (.decimal wellFormed inRange noInteger) rfl
  | string text => exact isReadBack_scalar trivial (.string text) rfl
  | array _ ih => exact isReadBack_array ih
  | object _ ih => exact isReadBack_object ih

/-- The compact text of a document is a text of the document. -/
theorem IsLegible.isTextOf_compact {value : Json} (legible : value.IsLegible) :
    IsTextOf value.compact value := by
  have nothing : EndsNumber [] := nofun
  obtain ⟨node, next, spells, read⟩ :=
    legible.isReadBack _ _ _ _ 0 nothing (.value [])
  have finish : lexemesFrom [] next = [⟨⟨next, next⟩, .finish⟩] := by rw [lexemesFrom]
  rw [List.append_nil, finish] at read
  have whole : document value.compact = ⟨node, ⟨⟨next, next⟩, .finish⟩⟩ := read
  exact ⟨by rw [whole]; exact spells, by rw [whole]⟩

end Json
end BuildNotices
