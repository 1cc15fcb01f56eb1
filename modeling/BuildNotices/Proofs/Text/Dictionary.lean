import BuildNotices.Text.Dictionary
/-!
Look-ups behind a merge.

Of all pairs under one name the last one counts, and where there is none the dictionary
answers as before.
-/

namespace BuildNotices
namespace Text

variable {α : Type}

def lastUnder? (name : String) : List (String × α) → Option α
  | [] => none
  | entry :: rest =>
      (lastUnder? name rest).or (if entry.1 = name then some entry.2 else none)

theorem lastUnder?_append (name : String) (first second : List (String × α)) :
    lastUnder? name (first ++ second) =
      (lastUnder? name second).or (lastUnder? name first) := by
  induction first with
  | nil => simp only [List.nil_append, lastUnder?, Option.or_none]
  | cons entry rest ih => simp only [List.cons_append, lastUnder?, ih, Option.or_assoc]

theorem lastUnder?_eq_none_iff {name : String} {pairs : List (String × α)} :
    lastUnder? name pairs = none ↔ ∀ entry ∈ pairs, entry.1 ≠ name := by
  induction pairs with
  | nil => simp [lastUnder?]
  | cons entry rest ih =>
      rw [lastUnder?, Option.or_eq_none_iff, ih, List.forall_mem_cons]
      by_cases same : entry.1 = name
      · simp [same]
      · simp [same]

theorem lastUnder?_filter (keep : String → Bool) {name : String} (kept : keep name = true)
    (pairs : List (String × α)) :
    lastUnder? name (pairs.filter fun entry => keep entry.1) = lastUnder? name pairs := by
  induction pairs with
  | nil => rfl
  | cons entry rest ih =>
      by_cases stays : keep entry.1 = true
      · rw [List.filter_cons_of_pos (by exact stays), lastUnder?, lastUnder?, ih]
      · have other : entry.1 ≠ name := by
          intro same
          rw [same] at stays
          exact stays kept
        rw [List.filter_cons_of_neg (by simpa using stays), lastUnder?, if_neg other,
          Option.or_none, ih]

/-- In a list without repeated names the last pair under a name is the first one. -/
theorem lastUnder?_eq_find? {pairs : List (String × α)}
    (ordered : pairs.Pairwise fun left right => left.1 < right.1) (name : String) :
    lastUnder? name pairs = (pairs.find? fun entry => entry.1 == name).map Prod.snd := by
  induction pairs with
  | nil => rfl
  | cons entry rest ih =>
      obtain ⟨below, tail⟩ := List.pairwise_cons.mp ordered
      by_cases same : entry.1 = name
      · have absent : lastUnder? name rest = none := by
          rw [lastUnder?_eq_none_iff]
          intro later member equal
          have before := below later member
          rw [same, equal] at before
          exact String.lt_irrefl name before
        rw [List.find?_cons_of_pos (by simpa using same), lastUnder?, absent, if_pos same]
        rfl
      · rw [List.find?_cons_of_neg (by simpa using same), lastUnder?, if_neg same,
          Option.or_none, ih tail]

theorem insertEntry_of_fresh {name : String} {entries : List (String × α)}
    (absent : ∀ entry ∈ entries, entry.1 ≠ name) (value : α) :
    ∃ front back, entries = front ++ back ∧
      insertEntry name value entries = front ++ (name, value) :: back := by
  induction entries with
  | nil => exact ⟨[], [], rfl, rfl⟩
  | cons entry rest ih =>
      rw [List.forall_mem_cons] at absent
      unfold insertEntry
      split
      next => exact ⟨[], entry :: rest, rfl, rfl⟩
      next notBefore =>
        split
        next =>
          obtain ⟨front, back, before, after⟩ := ih absent.2
          exact ⟨entry :: front, back, congrArg (entry :: ·) before,
            congrArg (entry :: ·) after⟩
        next notAfter =>
          have same : entry.1 = name :=
            String.le_antisymm (String.not_lt.mp notBefore) (String.not_lt.mp notAfter)
          exact absurd same absent.1

/-! ### Lists of names and values -/

/-- Under the name of a listed choice stands this choice, when no two go by one name. -/
theorem find?_name {all : List α} {name : α → String} {choice : α} (listed : choice ∈ all)
    (distinct : ∀ first ∈ all, ∀ second ∈ all, name first = name second → first = second) :
    (all.find? fun other => name other == name choice) = some choice := by
  cases found : all.find? fun other => name other == name choice with
  | none =>
      have missing := List.find?_eq_none.mp found choice listed
      exact absurd (beq_self_eq_true (name choice)) missing
  | some other =>
      have same : name other = name choice := by
        simpa using List.find?_some found
      rw [distinct other (List.mem_of_find?_eq_some found) choice listed same]

theorem mapM_map_of_readable {β : Type} (read : β → Option α) (write : α → β)
    (readable : ∀ item, read (write item) = some item) (items : List α) :
    (items.map write).mapM read = some items := by
  induction items with
  | nil => rfl
  | cons item items ih =>
      rw [List.map_cons, List.mapM_cons, readable, ih]
      rfl

/-! ### Dictionaries -/

namespace Dictionary

theorem lastUnder?_entries (dictionary : Dictionary α) (name : String) :
    lastUnder? name dictionary.entries = dictionary.get? name :=
  lastUnder?_eq_find? dictionary.ordered name

theorem get?_merge (dictionary : Dictionary α) (pairs : List (String × α)) (name : String) :
    (dictionary.merge pairs).get? name = (lastUnder? name pairs).or (dictionary.get? name) := by
  induction pairs generalizing dictionary with
  | nil => rw [merge_nil, lastUnder?, Option.none_or]
  | cons entry rest ih =>
      rw [merge_cons, ih, get?_insert, lastUnder?, Option.or_assoc]
      by_cases same : entry.1 = name
      · rw [if_pos same, if_pos same.symm, Option.some_or]
      · rw [if_neg same, if_neg (Ne.symm same), Option.none_or]

theorem get?_ofList (pairs : List (String × α)) (name : String) :
    (ofList pairs).get? name = lastUnder? name pairs := by
  rw [ofList, get?_merge, get?_empty, Option.or_none]

theorem ofList_entries (dictionary : Dictionary α) : ofList dictionary.entries = dictionary := by
  apply ext_get?
  intro name
  rw [get?_ofList, lastUnder?_entries]

theorem names_nodup (dictionary : Dictionary α) : (dictionary.entries.map Prod.fst).Nodup := by
  apply List.pairwise_map.mpr
  apply dictionary.ordered.imp
  intro left right before same
  rw [same] at before
  exact String.lt_irrefl right.1 before

theorem eq_empty_of_isEmpty {dictionary : Dictionary α} (nothing : dictionary.isEmpty = true) :
    dictionary = empty := by
  obtain ⟨entries, ordered⟩ := dictionary
  cases List.isEmpty_iff.mp nothing
  rfl

/-- With every value replaced by the same one, a dictionary still tells its names, and nothing
else. -/
theorem mapValues_const_inj {β : Type} (value : β) {first second : Dictionary α} :
    (first.mapValues fun _ => value) = (second.mapValues fun _ => value) ↔
      first.entries.map Prod.fst = second.entries.map Prod.fst := by
  have listed (dictionary : Dictionary α) :
      (dictionary.mapValues fun _ => value).entries =
        (dictionary.entries.map Prod.fst).map fun name => (name, value) := by
    rw [List.map_map]
    rfl
  constructor
  · intro same
    have entries := congrArg Dictionary.entries same
    rw [listed, listed] at entries
    exact (List.map_inj_right fun _ _ equal => (Prod.mk.inj equal).1).mp entries
  · intro names
    refine ext_get? fun name => ?_
    rw [get?, get?, listed, listed, names]

/-- A value under a new name is put somewhere between the entries. -/
theorem entries_insert_of_fresh {dictionary : Dictionary α} {name : String}
    (fresh : dictionary.get? name = none) (value : α) :
    ∃ front back, dictionary.entries = front ++ back ∧
      (dictionary.insert name value).entries = front ++ (name, value) :: back := by
  have absent : ∀ entry ∈ dictionary.entries, entry.1 ≠ name := by
    rw [← lastUnder?_entries] at fresh
    exact lastUnder?_eq_none_iff.mp fresh
  exact insertEntry_of_fresh absent value

theorem mem_entries_of_merge {dictionary : Dictionary α} {pairs : List (String × α)}
    {entry : String × α} (member : entry ∈ (dictionary.merge pairs).entries) :
    entry ∈ pairs ∨ entry ∈ dictionary.entries := by
  induction pairs generalizing dictionary with
  | nil => exact Or.inr member
  | cons pair rest ih =>
      rw [merge_cons] at member
      rcases ih member with later | before
      · exact Or.inl (List.mem_cons_of_mem pair later)
      · rcases mem_insertEntry before with rfl | kept
        · exact Or.inl List.mem_cons_self
        · exact Or.inr kept

/-- A dictionary made of pairs has no other entries. -/
theorem mem_of_mem_entries_ofList {pairs : List (String × α)} {entry : String × α}
    (member : entry ∈ (ofList pairs).entries) : entry ∈ pairs :=
  (mem_entries_of_merge member).resolve_right List.not_mem_nil

def erase (dictionary : Dictionary α) (name : String) : Dictionary α where
  entries := dictionary.entries.filter fun entry => entry.1 ≠ name
  ordered := dictionary.ordered.filter _

theorem get?_erase_self (dictionary : Dictionary α) (name : String) :
    (dictionary.erase name).get? name = none := by
  rw [get?, erase, Option.map_eq_none_iff, List.find?_eq_none]
  intro entry member
  simpa using (List.mem_filter.mp member).2

theorem get?_erase_of_ne {name other : String} (different : other ≠ name)
    (dictionary : Dictionary α) : (dictionary.erase name).get? other = dictionary.get? other := by
  have kept (entry : String × α) :
      decide (decide (entry.1 ≠ name) = true ∧ (entry.1 == other) = true) =
        (entry.1 == other) := by
    by_cases same : entry.1 = other
    · simp [same, different]
    · simp [same]
  rw [get?, erase, List.find?_filter, get?, funext kept]

end Dictionary
end Text
end BuildNotices
