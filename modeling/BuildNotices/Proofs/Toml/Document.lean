import BuildNotices.Proofs.Toml.Line
/-!
Rendered documents read back.

A table goes to the end of a document and a setting to the end of its table, so sections with
distinct names come out in their order. Neighbouring elements of one name are gathered in an
array.
-/

namespace BuildNotices
namespace Toml

/-! ### Names at the end of a level -/

section Levels

variable {name : String} {change : Option Entry → Option Entry}

theorem alter_of_fresh {level : Level} (fresh : name ∉ level.map Prod.fst) :
    alter name change level = (change none).map fun entry => level ++ [(name, entry)] := by
  induction level with
  | nil => rfl
  | cons present level ih =>
      rw [List.map_cons, List.mem_cons, not_or] at fresh
      obtain ⟨other, fresh⟩ := fresh
      unfold alter
      rw [if_neg (Ne.symm other), ih fresh, Option.map_map]
      rfl

theorem alter_last {before : Level} (fresh : name ∉ before.map Prod.fst) (entry : Entry) :
    alter name change (before ++ [(name, entry)]) =
      (change (some entry)).map fun later => before ++ [(name, later)] := by
  induction before with
  | nil => exact if_pos rfl
  | cons present before ih =>
      rw [List.map_cons, List.mem_cons, not_or] at fresh
      obtain ⟨other, fresh⟩ := fresh
      rw [List.cons_append, alter, if_neg (Ne.symm other), ih fresh, Option.map_map]
      rfl

end Levels

/-! ### The last table of a document -/

/-- How the open table at the end of a document stands there. -/
inductive Frame where
  | table
  | element (earlier : List Level)

def Frame.entry : Frame → Level → Entry
  | .table, inner => .table .header inner
  | .element earlier, inner => .tables earlier inner

namespace Document

def openAt (before : Level) (name : String) (frame : Frame) (inner : Level) : Document where
  root := before ++ [(name, frame.entry inner)]
  place := [name]

def levelOf (settings : List (String × Plain)) : Level :=
  settings.map fun (name, value) => (name, .value value.toValue)

variable {name : String} {before inner : Level}

theorem set_openAt (fresh : name ∉ before.map Prod.fst) (frame : Frame)
    {setting : String × Plain} (free : setting.1 ∉ inner.map Prod.fst) :
    (openAt before name frame inner).set setting =
      some (openAt before name frame (inner ++ levelOf [setting])) := by
  have put : Toml.assign [setting.1] setting.2.toValue inner = some (inner ++ levelOf [setting]) := by
    change alter setting.1 _ inner = _
    rw [alter_of_fresh free]
    rfl
  unfold set Document.assign openAt
  dsimp only
  rw [updateAt, alter_last fresh]
  cases frame with
  | table => simp [Frame.entry, updateAt, Way.passes, put]
  | element earlier => simp [Frame.entry, updateAt, put]

/-- Settings with distinct names are put into the open table in their order. -/
theorem fill_openAt (fresh : name ∉ before.map Prod.fst) (frame : Frame)
    (settings : List (String × Plain))
    (distinct : (inner.map Prod.fst ++ settings.map Prod.fst).Nodup) :
    settings.foldlM set (openAt before name frame inner) =
      some (openAt before name frame (inner ++ levelOf settings)) := by
  induction settings generalizing inner with
  | nil =>
      rw [levelOf, List.map_nil, List.append_nil]
      rfl
  | cons setting settings ih =>
      have free : setting.1 ∉ inner.map Prod.fst := by
        intro member
        have apart := (List.nodup_append.mp distinct).2.2
        exact apart _ member _ List.mem_cons_self rfl
      have later : ((inner ++ levelOf [setting]).map Prod.fst ++ settings.map Prod.fst).Nodup := by
        simpa [levelOf] using distinct
      rw [List.foldlM_cons, set_openAt fresh frame free]
      simp only [Option.bind_eq_bind, Option.bind_some]
      rw [ih later, List.append_assoc]
      rfl

/-! ### Sections entered one after the other -/

theorem enter_of_open {document : Document} {part : Section} {frame : Frame}
    (opened : document.open? part = some (openAt before part.name frame []))
    (fresh : part.name ∉ before.map Prod.fst) (distinct : (part.settings.map Prod.fst).Nodup) :
    document.enter part = some (openAt before part.name frame (levelOf part.settings)) := by
  unfold enter
  rw [opened]
  exact fill_openAt fresh frame part.settings distinct

theorem enter_table (document : Document) (part : Section)
    (fresh : part.name ∉ document.root.map Prod.fst)
    (isTable : part.isElement = false) (distinct : (part.settings.map Prod.fst).Nodup) :
    document.enter part =
      some (openAt document.root part.name .table (levelOf part.settings)) := by
  apply enter_of_open _ fresh distinct
  unfold open? Document.openTable underHeader
  simp [isTable, updateAt, Toml.openTable, alter_of_fresh fresh, openAt, Frame.entry]

theorem enter_first (document : Document) (part : Section)
    (fresh : part.name ∉ document.root.map Prod.fst)
    (isElement : part.isElement = true) (distinct : (part.settings.map Prod.fst).Nodup) :
    document.enter part =
      some (openAt document.root part.name (.element []) (levelOf part.settings)) := by
  apply enter_of_open _ fresh distinct
  unfold open? Document.openElement underHeader
  simp [isElement, updateAt, Toml.openElement, alter_of_fresh fresh, openAt, Frame.entry]

/-- The element that is open joins the earlier ones when the next one opens. -/
theorem enter_next (part : Section) (inner : Level)
    (fresh : part.name ∉ before.map Prod.fst) (earlier : List Level)
    (isElement : part.isElement = true) (distinct : (part.settings.map Prod.fst).Nodup) :
    (openAt before part.name (.element earlier) inner).enter part =
      some (openAt before part.name (.element (inner :: earlier)) (levelOf part.settings)) := by
  apply enter_of_open _ fresh distinct
  unfold open? Document.openElement underHeader
  simp [isElement, updateAt, Toml.openElement, alter_last fresh, openAt, Frame.entry]

end Document

/-! ### Blocks of sections -/

/-- What stands under one name of a rendered document. -/
inductive Block where
  | table (name : String) (settings : List (String × Plain))
  | array (name : String) (first : List (String × Plain)) (others : List (List (String × Plain)))

namespace Block

def name : Block → String
  | .table name _ => name
  | .array name _ _ => name

def tables : Block → List (List (String × Plain))
  | .table _ settings => [settings]
  | .array _ first others => first :: others

def sections : Block → List Section
  | .table name settings => [{ name, settings }]
  | .array name first others =>
      (first :: others).map fun settings => { name, isElement := true, settings }

end Block

def tableOf (settings : List (String × Plain)) : Value :=
  .table (settings.map fun (name, value) => (name, value.toValue))

def Block.toValue : Block → Value
  | .table _ settings => tableOf settings
  | .array _ first others => .array ((first :: others).map tableOf)

theorem entriesOf_eq_map (level : Level) :
    entriesOf level = level.map fun (name, entry) => (name, entry.toValue) := by
  induction level with
  | nil => rfl
  | cons entry level ih =>
      rw [List.map_cons, ← ih]
      rfl

theorem entriesOf_levelOf (settings : List (String × Plain)) :
    Value.table (entriesOf (Document.levelOf settings)) = tableOf settings := by
  unfold Document.levelOf tableOf
  rw [entriesOf_eq_map, List.map_map]
  rfl

namespace Document

theorem enter_elements {name : String} {before : Level} (fresh : name ∉ before.map Prod.fst)
    (others : List (List (String × Plain)))
    (distinct : ∀ settings ∈ others, (settings.map Prod.fst).Nodup)
    (earlier : List Level) (inner : Level) :
    ∃ earlier' inner',
      (others.map fun settings => ({ name, isElement := true, settings } : Section)).foldlM enter
          (openAt before name (.element earlier) inner) =
        some (openAt before name (.element earlier') inner') ∧
      tablesOf earlier' [.table (entriesOf inner')] =
        tablesOf earlier (.table (entriesOf inner) :: others.map tableOf) := by
  induction others generalizing earlier inner with
  | nil => exact ⟨earlier, inner, rfl, rfl⟩
  | cons settings others ih =>
      have next := enter_next { name, isElement := true, settings } inner fresh earlier rfl
        (distinct settings List.mem_cons_self)
      obtain ⟨earlier', inner', entered, gathered⟩ :=
        ih (fun other member => distinct other (List.mem_cons_of_mem settings member))
          (inner :: earlier) (levelOf settings)
      refine ⟨earlier', inner', ?_, ?_⟩
      · rw [List.map_cons, List.foldlM_cons, next]
        exact entered
      · rw [gathered, tablesOf, entriesOf_levelOf]
        rfl

/-- A block with a fresh name goes to the end of the document. -/
theorem enter_block {document : Document} {block : Block}
    (fresh : block.name ∉ document.root.map Prod.fst)
    (distinct : ∀ settings ∈ block.tables, (settings.map Prod.fst).Nodup) :
    ∃ entry place, block.sections.foldlM enter document =
        some { root := document.root ++ [(block.name, entry)], place } ∧
      entry.toValue = block.toValue := by
  cases block with
  | table name settings =>
      have entered := enter_table document { name, settings } fresh rfl
        (distinct settings List.mem_cons_self)
      refine ⟨Frame.entry .table (levelOf settings), [name], ?_, entriesOf_levelOf settings⟩
      change [({ name, settings } : Section)].foldlM enter document = _
      rw [List.foldlM_cons, entered]
      rfl
  | array name first others =>
      have entered := enter_first document { name, isElement := true, settings := first } fresh rfl
        (distinct first List.mem_cons_self)
      obtain ⟨earlier, inner, more, gathered⟩ := enter_elements fresh others
        (fun settings member => distinct settings (List.mem_cons_of_mem first member)) []
        (levelOf first)
      refine ⟨Frame.entry (.element earlier) inner, [name], ?_, ?_⟩
      · change ((first :: others).map fun settings =>
          ({ name, isElement := true, settings } : Section)).foldlM enter document = _
        rw [List.map_cons, List.foldlM_cons, entered]
        exact more
      · change Value.array (tablesOf earlier [.table (entriesOf inner)]) = _
        rw [gathered, entriesOf_levelOf]
        rfl

/-- Blocks with distinct names are entered in their order. -/
theorem enter_blocks (document : Document) (blocks : List Block)
    (apart : (document.root.map Prod.fst ++ blocks.map Block.name).Nodup)
    (distinct : ∀ block ∈ blocks, ∀ settings ∈ block.tables, (settings.map Prod.fst).Nodup) :
    ((blocks.flatMap Block.sections).foldlM enter document).map (fun later => entriesOf later.root) =
      some (entriesOf document.root ++ blocks.map fun block => (block.name, block.toValue)) := by
  induction blocks generalizing document with
  | nil =>
      rw [List.map_nil, List.append_nil]
      rfl
  | cons block blocks ih =>
      have fresh : block.name ∉ document.root.map Prod.fst := by
        intro member
        exact (List.nodup_append.mp apart).2.2 _ member _ List.mem_cons_self rfl
      obtain ⟨entry, place, entered, same⟩ := enter_block fresh (distinct block List.mem_cons_self)
      have rest := ih { root := document.root ++ [(block.name, entry)], place }
        (by simpa using apart) fun other member => distinct other (List.mem_cons_of_mem block member)
      rw [List.flatMap_cons, List.foldlM_append, entered]
      simp only [Option.bind_eq_bind, Option.bind_some]
      have latest : entriesOf (document.root ++ [(block.name, entry)]) =
          entriesOf document.root ++ [(block.name, block.toValue)] := by
        rw [entriesOf_eq_map, entriesOf_eq_map, List.map_append, ← same]
        rfl
      rw [rest, latest, List.append_assoc]
      rfl

end Document

/-! ### The whole text -/

theorem written_head (part : Section) : part.written.toList.head? = some '[' := by
  unfold Section.written Section.header
  split
  · simp [String.toList_append]
  · simp [String.toList_append]

theorem render_head (part : Section) (parts : List Section) :
    (render (part :: parts)).toList.head? = some '[' := by
  have head := written_head part
  unfold render
  cases parts with
  | nil => exact head
  | cons second parts =>
      rw [List.map_cons, List.map_cons, String.intercalate_cons_cons, String.toList_append,
        String.toList_append, List.append_assoc, List.head?_append, head]
      rfl

/-- A table can be read back from its settings. -/
structure Readable (settings : List (String × Plain)) : Prop where
  distinct : (settings.map Prod.fst).Nodup
  fits : AllFit settings

/-- A rendered document is read back to its tables, whatever lines without effect follow. -/
theorem parse?_render {first : Block} {others : List Block}
    (apart : ((first :: others).map Block.name).Nodup)
    (readable : ∀ block ∈ first :: others, ∀ settings ∈ block.tables, Readable settings)
    {behind : String} (silent : Performs behind some) :
    parse? (render ((first :: others).flatMap Block.sections) ++ behind) =
      some ((first :: others).map fun block => (block.name, block.toValue)) := by
  have fitting : ∀ part ∈ (first :: others).flatMap Block.sections,
      AllFit part.settings := by
    intro part member
    obtain ⟨block, blockMember, partMember⟩ := List.mem_flatMap.mp member
    have table : part.settings ∈ block.tables := by
      cases block with
      | table name settings =>
          cases List.mem_singleton.mp partMember
          exact List.mem_singleton_self settings
      | array name former latter =>
          obtain ⟨settings, among, rfl⟩ := List.mem_map.mp partMember
          exact among
    exact (readable block blockMember part.settings table).fits
  have performs := (Performs.render _ fitting).append silent
  have unmarked : (render ((first :: others).flatMap Block.sections) ++ behind).toList.head? ≠
      some byteOrderMark := by
    have head : (render ((first :: others).flatMap Block.sections)).toList.head? = some '[' := by
      cases first with
      | table name settings => exact render_head _ _
      | array name former latter => exact render_head _ _
    rw [String.toList_append, List.head?_append, head, Option.some_or]
    decide
  rw [parse?_of_performs performs unmarked]
  simp only [Option.bind_fun_some]
  exact Document.enter_blocks {} (first :: others) apart
    fun block blockMember settings member => (readable block blockMember settings member).distinct

end Toml
end BuildNotices
