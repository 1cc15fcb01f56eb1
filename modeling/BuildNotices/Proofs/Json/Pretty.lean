import BuildNotices.Json.Printer
import BuildNotices.Json.Token
import BuildNotices.Proofs.Text.Dictionary
/-!
Documents and their indented texts.

The text of a document shows where it ends, whatever stands behind it. So two documents without
numbers have one text only if they are the same document.
-/

namespace BuildNotices
namespace Json

open Text

/-! ### Texts that show where they end -/

section Lists

variable {α : Type}

/-- Whatever stands behind the text of an item, the text is that of no other legal item, and what
stands behind it is known. -/
def EndsClearly (write : α → List Char) (Legal : α → Prop) (item : α) : Prop :=
  ∀ other, Legal other → ∀ rest otherRest,
    write item ++ rest = write other ++ otherRest → item = other ∧ rest = otherRest

variable {write : α → List Char} {Legal : α → Prop}

theorem EndsClearly.behind {item : α} (clear : EndsClearly write Legal item)
    (front : List Char) : EndsClearly (fun item => front ++ write item) Legal item := by
  intro other legal rest otherRest same
  rw [List.append_assoc, List.append_assoc] at same
  exact clear other legal rest otherRest (List.append_cancel_left same)

/-- The end of a list is clear when it is marked by a character that begins no item. -/
theorem flatMap_inj {mark : Char} {items others : List α}
    (clear : ∀ item ∈ items, EndsClearly write Legal item)
    (legal : ∀ other ∈ others, Legal other)
    (unmarked : ∀ item rest behind, write item ++ rest ≠ mark :: behind)
    {rest otherRest : List Char}
    (same : items.flatMap write ++ mark :: rest = others.flatMap write ++ mark :: otherRest) :
    items = others ∧ rest = otherRest := by
  induction items generalizing others with
  | nil =>
      cases others with
      | nil => exact ⟨rfl, List.tail_eq_of_cons_eq same⟩
      | cons other others =>
          rw [List.flatMap_cons, List.append_assoc] at same
          exact absurd same.symm (unmarked other _ _)
  | cons item items ih =>
      cases others with
      | nil =>
          rw [List.flatMap_cons, List.append_assoc] at same
          exact absurd same (unmarked item _ _)
      | cons other others =>
          rw [List.forall_mem_cons] at clear legal
          rw [List.flatMap_cons, List.flatMap_cons, List.append_assoc, List.append_assoc] at same
          obtain ⟨rfl, sameTail⟩ := clear.1 other legal.1 _ _ same
          obtain ⟨rfl, sameRest⟩ := ih clear.2 legal.2 sameTail
          exact ⟨rfl, sameRest⟩

end Lists

/-! ### Strings -/

def readEscape? : List Char → Option (Char × List Char)
  | 'u' :: a :: b :: c :: d :: rest =>
      (hexNumber? [a, b, c, d]).map fun unit => (Char.ofNat unit, rest)
  | letter :: rest => (simpleEscape? letter).map fun c => (c, rest)
  | [] => none

def readChar? : List Char → Option (Char × List Char)
  | [] => none
  | first :: rest =>
      if first = '\x22' then none
      else if first = '\\' then readEscape? rest
      else some (first, rest)

theorem hexNumber?_control {code : Nat} (control : code < 0x20) :
    hexNumber? ['0', '0', lowerHexDigit (code / 16), lowerHexDigit (code % 16)] = some code := by
  revert code
  decide

theorem readChar?_escapeChar (c : Char) (rest : List Char) :
    readChar? (escapeChar c ++ rest) = some (c, rest) := by
  unfold escapeChar
  split
  case h_8 notQuote notBackslash _ _ _ _ _ =>
    split
    next control =>
      change (hexNumber? ['0', '0', _, _]).map (fun unit => (Char.ofNat unit, rest)) = _
      rw [hexNumber?_control control, Option.map_some, Char.ofNat_toNat]
    next =>
      rw [List.singleton_append, readChar?, if_neg notQuote, if_neg notBackslash]
  all_goals rfl

theorem endsClearly_escapeChar (c : Char) : EndsClearly escapeChar (fun _ => True) c := by
  intro d _ rest otherRest same
  have read : some (c, rest) = some (d, otherRest) := by
    rw [← readChar?_escapeChar, same, readChar?_escapeChar]
  exact Prod.mk.inj (Option.some.inj read)

theorem escapeChar_append_ne_quote (c : Char) (rest behind : List Char) :
    escapeChar c ++ rest ≠ '\x22' :: behind := by
  intro same
  have read : some (c, rest) = readChar? ('\x22' :: behind) := by
    rw [← same, readChar?_escapeChar]
  cases read

theorem endsClearly_quoted (text : String) :
    EndsClearly (fun text => (quoted text).toList) (fun _ => True) text := by
  intro other _ rest otherRest same
  simp only [quoted, String.toList_ofList, List.cons_append, List.append_assoc,
    List.nil_append] at same
  obtain ⟨sameText, sameRest⟩ := flatMap_inj (fun c _ => endsClearly_escapeChar c)
    (fun _ _ => trivial) escapeChar_append_ne_quote (List.tail_eq_of_cons_eq same)
  exact ⟨String.toList_inj.mp sameText, sameRest⟩

/-! ### Blocks -/

section Blocks

variable {α : Type} {write : α → List Char} {Legal : α → Prop}

theorem toList_freshLine (depth : Nat) :
    (freshLine depth).toList = '\n' :: List.replicate (2 * depth) ' ' := by
  simp [freshLine]

def line (depth : Nat) (write : α → List Char) (item : α) : List Char :=
  (freshLine depth).toList ++ write item

/-- Lines with commas between them inside brackets; without lines only the brackets. -/
def block (opened closed : Char) (depth : Nat) (write : α → List Char) : List α → List Char
  | [] => [opened, closed]
  | first :: rest =>
      opened :: (line (depth + 1) write first ++
        (rest.flatMap fun item => ',' :: line (depth + 1) write item) ++
        (freshLine depth).toList ++ [closed])

theorem block_begins {opened closed : Char} {depth : Nat} {items : List α} :
    ∃ tail, block opened closed depth write items = opened :: tail := by
  cases items with
  | nil => exact ⟨_, rfl⟩
  | cons item items => exact ⟨_, rfl⟩

/-- A bracket that closes an empty block is no line break, with which any line begins. -/
theorem block_inj {opened closed : Char} (visible : closed ≠ '\n') {depth : Nat}
    {items others : List α} (clear : ∀ item ∈ items, EndsClearly write Legal item)
    (legal : ∀ other ∈ others, Legal other) {rest otherRest : List Char}
    (same : block opened closed depth write items ++ rest =
      block opened closed depth write others ++ otherRest) :
    items = others ∧ rest = otherRest := by
  cases items with
  | nil =>
      cases others with
      | nil =>
          simp only [block, List.cons_append, List.nil_append, List.cons.injEq, true_and] at same
          exact ⟨rfl, same⟩
      | cons other others =>
          simp only [block, line, toList_freshLine, List.cons_append, List.cons.injEq,
            true_and] at same
          exact absurd same.1 visible
  | cons item items =>
      cases others with
      | nil =>
          simp only [block, line, toList_freshLine, List.cons_append, List.cons.injEq,
            true_and] at same
          exact absurd same.1.symm visible
      | cons other others =>
          rw [List.forall_mem_cons] at clear legal
          simp only [block, List.cons_append, List.append_assoc, List.nil_append,
            List.cons.injEq, true_and] at same
          obtain ⟨rfl, sameLines⟩ := (clear.1.behind _) other legal.1 _ _ same
          have lines : ∀ item ∈ items,
              EndsClearly (fun item => ',' :: line (depth + 1) write item) Legal item :=
            fun item member => (clear.2 item member).behind (',' :: (freshLine (depth + 1)).toList)
          rw [toList_freshLine] at sameLines
          obtain ⟨rfl, sameEnd⟩ := flatMap_inj lines legal.2 (by simp) sameLines
          simpa using sameEnd

end Blocks

/-! ### Documents -/

def memberText (depth : Nat) (member : String × Json) : List Char :=
  (quoted member.1).toList ++ ": ".toList ++ (prettyAt depth member.2).toList

theorem toList_prettyItems (depth : Nat) (first : Json) (rest : List Json) :
    (prettyItems depth (first :: rest)).toList =
      line depth (fun item => (prettyAt depth item).toList) first ++
        rest.flatMap fun item =>
          ',' :: line depth (fun item => (prettyAt depth item).toList) item := by
  induction rest generalizing first with
  | nil => simp [prettyItems, line]
  | cons next rest ih => simp [prettyItems, line, ih]

theorem toList_prettyMembers (depth : Nat) (first : String × Json)
    (rest : List (String × Json)) :
    (prettyMembers depth (first :: rest)).toList =
      line depth (memberText depth) first ++
        rest.flatMap fun member => ',' :: line depth (memberText depth) member := by
  induction rest generalizing first with
  | nil => simp [prettyMembers, memberText, line]
  | cons next rest ih => simp [prettyMembers, memberText, line, ih]

theorem toList_prettyAt_array (depth : Nat) (items : List Json) :
    (prettyAt depth (.array items)).toList =
      block '[' ']' depth (fun item => (prettyAt (depth + 1) item).toList) items := by
  cases items with
  | nil => simp [prettyAt, block]
  | cons first rest => simp [prettyAt, toList_prettyItems, block]

theorem toList_prettyAt_object (depth : Nat) (members : List (String × Json)) :
    (prettyAt depth (.object members)).toList =
      block '\x7b' '\x7d' depth (memberText (depth + 1)) members := by
  cases members with
  | nil => simp [prettyAt, block]
  | cons first rest => simp [prettyAt, toList_prettyMembers, block]

theorem endsClearly_memberText {depth : Nat} {Legal : Json → Prop} {member : String × Json}
    (clear : EndsClearly (fun value => (prettyAt depth value).toList) Legal member.2) :
    EndsClearly (memberText depth) (fun member => Legal member.2) member := by
  intro other legal rest otherRest same
  simp only [memberText, List.append_assoc] at same
  obtain ⟨sameName, sameValue⟩ := endsClearly_quoted member.1 other.1 trivial _ _ same
  obtain ⟨sameDocument, sameRest⟩ := clear other.2 legal _ _ (List.append_cancel_left sameValue)
  exact ⟨Prod.ext sameName sameDocument, sameRest⟩

inductive NumberFree : Json → Prop where
  | null : NumberFree .null
  | boolean (value : Bool) : NumberFree (.boolean value)
  | string (text : String) : NumberFree (.string text)
  | array {items : List Json} (each : ∀ item ∈ items, NumberFree item) :
      NumberFree (.array items)
  | object {members : List (String × Json)}
      (each : ∀ member ∈ members, NumberFree member.2) : NumberFree (.object members)

theorem numberFree_record {members : List (String × Json)}
    (each : ∀ member ∈ members, NumberFree member.2) : NumberFree (.record members) :=
  .object fun member inside => each member (Dictionary.mem_of_mem_entries_ofList inside)

def opening : Json → Char
  | .null => 'n'
  | .boolean value => if value then 't' else 'f'
  | .array _ => '['
  | .object _ => '\x7b'
  | _ => '\x22'

theorem NumberFree.begins {document : Json} (numberFree : NumberFree document) (depth : Nat) :
    ∃ tail, (prettyAt depth document).toList = document.opening :: tail := by
  cases numberFree with
  | null => simp [prettyAt, scalarText, opening]
  | boolean value =>
      cases value with
      | true => simp [prettyAt, scalarText, opening]
      | false => simp [prettyAt, scalarText, opening]
  | string text => simp [prettyAt, scalarText, opening, quoted]
  | array each =>
      rw [toList_prettyAt_array]
      exact block_begins
  | object each =>
      rw [toList_prettyAt_object]
      exact block_begins

theorem NumberFree.opening_eq {document other : Json} (numberFree : NumberFree document)
    (legal : NumberFree other) {depth : Nat} {rest otherRest : List Char}
    (same : (prettyAt depth document).toList ++ rest = (prettyAt depth other).toList ++ otherRest) :
    document.opening = other.opening := by
  obtain ⟨tail, begins⟩ := numberFree.begins depth
  obtain ⟨otherTail, otherBegins⟩ := legal.begins depth
  rw [begins, otherBegins] at same
  exact List.head_eq_of_cons_eq same

theorem NumberFree.endsClearly {document : Json} (numberFree : NumberFree document)
    (depth : Nat) :
    EndsClearly (fun document => (prettyAt depth document).toList) NumberFree document := by
  -- The first character tells which kind of document the other one is, so only the case of the
  -- same kind has something to read behind it.
  induction numberFree generalizing depth with
  | null =>
      intro other legal rest otherRest same
      have openings := NumberFree.null.opening_eq legal same
      cases legal with
      | null => exact ⟨rfl, List.append_cancel_left same⟩
      | _ => grind [opening]
  | boolean value =>
      intro other legal rest otherRest same
      have openings := (NumberFree.boolean value).opening_eq legal same
      cases legal with
      | boolean otherValue =>
          obtain rfl : value = otherValue := by grind [opening]
          exact ⟨rfl, List.append_cancel_left same⟩
      | _ => grind [opening]
  | string text =>
      intro other legal rest otherRest same
      have openings := (NumberFree.string text).opening_eq legal same
      cases legal with
      | string otherText =>
          simp only [prettyAt, scalarText] at same
          obtain ⟨rfl, sameRest⟩ := endsClearly_quoted text otherText trivial _ _ same
          exact ⟨rfl, sameRest⟩
      | _ => grind [opening]
  | array each ih =>
      intro other legal rest otherRest same
      have openings := (NumberFree.array each).opening_eq legal same
      cases legal with
      | array legal =>
          simp only [toList_prettyAt_array] at same
          obtain ⟨rfl, sameRest⟩ := block_inj (by decide)
            (fun item member => ih item member (depth + 1)) legal same
          exact ⟨rfl, sameRest⟩
      | _ => grind [opening]
  | object each ih =>
      intro other legal rest otherRest same
      have openings := (NumberFree.object each).opening_eq legal same
      cases legal with
      | object legal =>
          simp only [toList_prettyAt_object] at same
          obtain ⟨rfl, sameRest⟩ := block_inj (by decide)
            (fun member inside => endsClearly_memberText (ih member inside (depth + 1))) legal same
          exact ⟨rfl, sameRest⟩
      | _ => grind [opening]

/-- The text of a document without numbers is that of no other such document, also with more
text behind it. -/
theorem pretty_inj {first second : Json} (numberFree : NumberFree first)
    (legal : NumberFree second) {rest otherRest : List Char}
    (same : first.pretty.toList ++ rest = second.pretty.toList ++ otherRest) :
    first = second ∧ rest = otherRest :=
  numberFree.endsClearly 0 second legal rest otherRest same

end Json
end BuildNotices
