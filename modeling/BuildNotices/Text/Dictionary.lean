/-!
Finite maps from names to values.

A dictionary keeps its entries sorted by name, in code point order, with no name
twice. The order is part of the type, so two dictionaries that answer every
look-up alike are equal (`ext_get?`), and every listing comes out the same way
whatever the order of insertion was.
-/

namespace BuildNotices
namespace Text

def insertEntry {α : Type} (name : String) (value : α) :
    List (String × α) → List (String × α)
  | [] => [(name, value)]
  | entry :: rest =>
      if name < entry.1 then
        (name, value) :: entry :: rest
      else if entry.1 < name then
        entry :: insertEntry name value rest
      else
        (name, value) :: rest

/-- Every name of `insertEntry` is the new one or was there before. -/
theorem mem_insertEntry {α : Type} {name : String} {value : α}
    {entries : List (String × α)} {entry : String × α}
    (member : entry ∈ insertEntry name value entries) :
    entry = (name, value) ∨ entry ∈ entries := by
  induction entries with
  | nil =>
      simp only [insertEntry, List.mem_singleton] at member
      exact Or.inl member
  | cons first rest ih =>
      simp only [insertEntry] at member
      split at member
      · rcases List.mem_cons.mp member with same | old
        · exact Or.inl same
        · exact Or.inr old
      · split at member
        · rcases List.mem_cons.mp member with same | old
          · exact Or.inr (same ▸ List.mem_cons_self)
          · rcases ih old with new | kept
            · exact Or.inl new
            · exact Or.inr (List.mem_cons_of_mem first kept)
        · rcases List.mem_cons.mp member with same | old
          · exact Or.inl same
          · exact Or.inr (List.mem_cons_of_mem first old)

/-- Insertion keeps a list of entries sorted. -/
theorem insertEntry_ordered {α : Type} (name : String) (value : α)
    {entries : List (String × α)}
    (ordered : entries.Pairwise fun left right => left.1 < right.1) :
    (insertEntry name value entries).Pairwise fun left right => left.1 < right.1 := by
  induction entries with
  | nil => simp [insertEntry]
  | cons first rest ih =>
      obtain ⟨below, tail⟩ := List.pairwise_cons.mp ordered
      unfold insertEntry
      split
      next before =>
        refine List.pairwise_cons.mpr ⟨?_, ordered⟩
        intro entry member
        rcases List.mem_cons.mp member with same | later
        · rw [same]
          exact before
        · exact String.lt_trans before (below entry later)
      next notBefore =>
        split
        next after =>
          refine List.pairwise_cons.mpr ⟨?_, ih tail⟩
          intro entry member
          rcases mem_insertEntry member with new | old
          · rw [new]
            exact after
          · exact below entry old
        next notAfter =>
          have same : first.1 = name :=
            String.le_antisymm (String.not_lt.mp notBefore) (String.not_lt.mp notAfter)
          refine List.pairwise_cons.mpr ⟨?_, tail⟩
          intro entry member
          rw [← same]
          exact below entry member

/-- A finite map from names to values, listed in the order of the names. -/
structure Dictionary (α : Type) where
  entries : List (String × α)
  ordered : entries.Pairwise fun left right => left.1 < right.1

namespace Dictionary

variable {α β : Type}

instance [DecidableEq α] : DecidableEq (Dictionary α) := fun left right =>
  if same : left.entries = right.entries then
    isTrue (by
      cases left
      cases right
      cases same
      rfl)
  else
    isFalse (fun equal => same (congrArg entries equal))

instance [Repr α] : Repr (Dictionary α) where
  reprPrec dictionary depth := reprPrec dictionary.entries depth

def empty : Dictionary α where
  entries := []
  ordered := List.Pairwise.nil

instance : Inhabited (Dictionary α) := ⟨empty⟩

def insert (dictionary : Dictionary α) (name : String) (value : α) : Dictionary α where
  entries := insertEntry name value dictionary.entries
  ordered := insertEntry_ordered name value dictionary.ordered

def get? (dictionary : Dictionary α) (name : String) : Option α :=
  (dictionary.entries.find? fun entry => entry.1 == name).map Prod.snd

def contains (dictionary : Dictionary α) (name : String) : Bool :=
  dictionary.entries.any fun entry => entry.1 == name

def size (dictionary : Dictionary α) : Nat :=
  dictionary.entries.length

def isEmpty (dictionary : Dictionary α) : Bool :=
  dictionary.entries.isEmpty

/-- Puts in all the given values, a later one in place of an earlier one. -/
def merge (dictionary : Dictionary α) (overrides : List (String × α)) : Dictionary α :=
  overrides.foldl (fun grown entry => grown.insert entry.1 entry.2) dictionary

def ofList (pairs : List (String × α)) : Dictionary α :=
  empty.merge pairs

def mapValues (change : α → β) (dictionary : Dictionary α) : Dictionary β where
  entries := dictionary.entries.map fun entry => (entry.1, change entry.2)
  ordered := by
    rw [List.pairwise_map]
    exact dictionary.ordered

/-! ### Look-ups -/

@[simp]
theorem get?_empty (name : String) : (empty : Dictionary α).get? name = none := rfl

private theorem find?_insertEntry_same (name : String) (value : α)
    (entries : List (String × α)) :
    (insertEntry name value entries).find? (fun entry => entry.1 == name) =
      some (name, value) := by
  induction entries with
  | nil => simp [insertEntry]
  | cons first rest ih =>
      unfold insertEntry
      split
      · simp
      · split
        next after =>
          have different : first.1 ≠ name := fun same =>
            String.lt_irrefl name (same ▸ after)
          rw [List.find?_cons_of_neg (by simpa using different), ih]
        · simp

private theorem find?_insertEntry_other {name other : String} (different : other ≠ name)
    (value : α) (entries : List (String × α)) :
    (insertEntry name value entries).find? (fun entry => entry.1 == other) =
      entries.find? fun entry => entry.1 == other := by
  induction entries with
  | nil => simp [insertEntry, Ne.symm different]
  | cons first rest ih =>
      unfold insertEntry
      split
      · rw [List.find?_cons_of_neg (by simpa using Ne.symm different)]
      next notBefore =>
        split
        · simp only [List.find?_cons]
          rw [ih]
        next notAfter =>
          have same : first.1 = name :=
            String.le_antisymm (String.not_lt.mp notBefore) (String.not_lt.mp notAfter)
          rw [List.find?_cons_of_neg (by simpa using Ne.symm different),
            List.find?_cons_of_neg (by simpa [same] using Ne.symm different)]

@[simp]
theorem get?_insert_self (dictionary : Dictionary α) (name : String) (value : α) :
    (dictionary.insert name value).get? name = some value := by
  simp [get?, insert, find?_insertEntry_same]

theorem get?_insert_of_ne {name other : String} (different : other ≠ name)
    (dictionary : Dictionary α) (value : α) :
    (dictionary.insert name value).get? other = dictionary.get? other := by
  simp [get?, insert, find?_insertEntry_other different]

theorem get?_insert (dictionary : Dictionary α) (name : String) (value : α)
    (other : String) :
    (dictionary.insert name value).get? other =
      if other = name then some value else dictionary.get? other := by
  by_cases same : other = name
  · subst same
    simp
  · simp [same, get?_insert_of_ne same]

theorem contains_eq_isSome (dictionary : Dictionary α) (name : String) :
    dictionary.contains name = (dictionary.get? name).isSome := by
  rw [contains, get?, Option.isSome_map]
  cases found : dictionary.entries.find? fun entry => entry.1 == name with
  | none =>
      rw [List.find?_eq_none] at found
      simpa using found
  | some entry =>
      have member := List.mem_of_find?_eq_some found
      have named := List.find?_some found
      simpa using ⟨entry.2, by
        have same : entry.1 = name := by simpa using named
        rw [← same]
        exact member⟩

@[simp]
theorem merge_nil (dictionary : Dictionary α) : dictionary.merge [] = dictionary := rfl

@[simp]
theorem merge_cons (dictionary : Dictionary α) (entry : String × α)
    (rest : List (String × α)) :
    dictionary.merge (entry :: rest) = (dictionary.insert entry.1 entry.2).merge rest := rfl

/-! ### Extensionality -/

private theorem find?_eq_none_of_below {name : String} (entries : List (String × α))
    (above : ∀ entry ∈ entries, name < entry.1) :
    entries.find? (fun entry => entry.1 == name) = none := by
  rw [List.find?_eq_none]
  intro entry member same
  have equal : entry.1 = name := by simpa using same
  exact String.lt_irrefl name (equal ▸ above entry member)

private theorem entries_eq_of_find? {left right : List (String × α)}
    (leftOrdered : left.Pairwise fun first second => first.1 < second.1)
    (rightOrdered : right.Pairwise fun first second => first.1 < second.1)
    (same : ∀ name, (left.find? fun entry => entry.1 == name).map Prod.snd =
      (right.find? fun entry => entry.1 == name).map Prod.snd) : left = right := by
  induction left generalizing right with
  | nil =>
      cases right with
      | nil => rfl
      | cons entry rest =>
          have here := same entry.1
          simp at here
  | cons first leftRest ih =>
      obtain ⟨leftBelow, leftTail⟩ := List.pairwise_cons.mp leftOrdered
      cases right with
      | nil =>
          have here := same first.1
          simp at here
      | cons second rightRest =>
          obtain ⟨rightBelow, rightTail⟩ := List.pairwise_cons.mp rightOrdered
          have notBefore : ¬ first.1 < second.1 := by
            intro before
            have here := same first.1
            rw [find?_eq_none_of_below (second :: rightRest)] at here
            · simp at here
            · intro entry member
              rcases List.mem_cons.mp member with equal | later
              · rw [equal]
                exact before
              · exact String.lt_trans before (rightBelow entry later)
          have notAfter : ¬ second.1 < first.1 := by
            intro after
            have here := same second.1
            rw [find?_eq_none_of_below (first :: leftRest)] at here
            · simp at here
            · intro entry member
              rcases List.mem_cons.mp member with equal | later
              · rw [equal]
                exact after
              · exact String.lt_trans after (leftBelow entry later)
          have sameName : first.1 = second.1 :=
            String.le_antisymm (String.not_lt.mp notAfter) (String.not_lt.mp notBefore)
          have sameValue : first.2 = second.2 := by
            have here := same first.1
            simpa [sameName] using here
          have sameEntry : first = second := Prod.ext sameName sameValue
          rw [sameEntry, ih leftTail rightTail]
          intro name
          by_cases named : first.1 = name
          · rw [find?_eq_none_of_below leftRest (fun entry member =>
                named ▸ leftBelow entry member),
              find?_eq_none_of_below rightRest (fun entry member =>
                named ▸ sameName ▸ rightBelow entry member)]
          · have here := same name
            rwa [List.find?_cons_of_neg (by simpa using named),
              List.find?_cons_of_neg (by simpa [← sameName] using named)] at here

/-- Dictionaries that answer every look-up alike are equal. -/
theorem ext_get? {left right : Dictionary α}
    (same : ∀ name, left.get? name = right.get? name) : left = right := by
  have equal := entries_eq_of_find? left.ordered right.ordered same
  cases left
  cases right
  cases equal
  rfl

end Dictionary
end Text
end BuildNotices
