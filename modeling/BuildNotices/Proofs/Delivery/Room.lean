import BuildNotices.Delivery.Room
import BuildNotices.Proofs.Text.Field
/-!
Lists of rooms.

The rooms of a list are its fields between commas, trimmed and without blank ones, although blanks
around a comma are taken with it. So lists can be joined with a comma, and rooms that are listed
again with any blanks around the commas are the same rooms.
-/

namespace BuildNotices

open Text

theorem isBlank_comma : isBlank ',' = false := by decide

/-- The rooms that a list of fields stands for. -/
theorem roomIds_eq (rooms : String) :
    roomIds rooms =
      ((fields ',' rooms.toList).map fun field => String.ofList (trim field)).filter (· ≠ "") := by
  have trimmedFields : (spacedFields ',' false (trim rooms.toList)).map trim =
      (fields ',' rooms.toList).map trim := by
    rw [map_trim_spacedFields, map_trim_fields_trim isBlank_comma]
  have texts := congrArg (List.map String.ofList) trimmedFields
  rw [List.map_map, List.map_map] at texts
  exact congrArg (List.filter (· ≠ "")) texts

theorem roomIds_append (front back : String) :
    roomIds (front ++ "," ++ back) = roomIds front ++ roomIds back := by
  have comma : ",".toList = [','] := rfl
  rw [roomIds_eq, roomIds_eq, roomIds_eq, String.toList_append, String.toList_append, comma,
    List.append_assoc, List.singleton_append, fields_append, List.map_append, List.filter_append]

/-! ### Rooms of a list -/

/-- A room as it comes out of a list: it could be listed again. -/
structure IsListable (room : String) : Prop where
  nonempty : room ≠ ""
  commaFree : ',' ∉ room.toList
  trimmed : Text.trimmed room = room

theorem isListable_of_mem_roomIds {rooms room : String} (member : room ∈ roomIds rooms) :
    IsListable room := by
  rw [roomIds_eq, List.mem_filter, decide_eq_true_iff] at member
  obtain ⟨listed, nonempty⟩ := member
  obtain ⟨field, inside, rfl⟩ := List.mem_map.mp listed
  refine ⟨nonempty, ?_, ?_⟩
  · rw [String.toList_ofList]
    exact fun comma => not_mem_of_mem_fields inside (mem_of_mem_stripWhile comma)
  · rw [Text.trimmed, String.toList_ofList, trim_trim]

/-! ### Lists that are written -/

/-- A text lists names between commas, with blanks around a comma. -/
inductive IsListing : List String → List Char → Prop
  | none : IsListing [] []
  | last (name : String) : IsListing [name] name.toList
  | more {name next : String} {rest : List String} {before after text : List Char}
      (blankBefore : ∀ c ∈ before, isBlank c = true) (blankAfter : ∀ c ∈ after, isBlank c = true)
      (listing : IsListing (next :: rest) text) :
      IsListing (name :: next :: rest) (name.toList ++ before ++ ',' :: (after ++ text))

/-- Names that are joined with bare commas are listed. -/
theorem isListing_intercalate (names : List String) :
    IsListing names (",".intercalate names).toList := by
  have comma : ",".toList = [','] := rfl
  rw [String.toList_intercalate, comma]
  induction names with
  | nil => exact .none
  | cons name rest ih =>
      cases rest with
      | nil =>
          rw [List.map_singleton, List.intercalate_singleton]
          exact .last name
      | cons next rest =>
          have bare := @IsListing.more name next rest [] [] _ (List.forall_mem_nil _)
            (List.forall_mem_nil _) ih
          rw [List.append_nil, List.nil_append] at bare
          rw [List.map_cons, List.map_cons, List.intercalate_cons_cons, List.append_assoc,
            List.singleton_append]
          exact bare

theorem map_trim_fields_of_isListing {names : List String} {text : List Char}
    (listing : IsListing names text) (nonempty : names ≠ [])
    (commaFree : ∀ name ∈ names, ',' ∉ name.toList) :
    (fields ',' text).map trim = names.map fun name => trim name.toList := by
  induction listing with
  | none => exact absurd rfl nonempty
  | last name =>
      rw [fields_of_not_mem (commaFree name List.mem_cons_self), List.map_singleton,
        List.map_singleton]
  | @more name next rest before after text blankBefore blankAfter listing ih =>
      obtain ⟨alone, others⟩ := List.forall_mem_cons.mp commaFree
      have single : ',' ∉ name.toList ++ before := fun comma =>
        (List.mem_append.mp comma).elim alone (not_mem_of_blank isBlank_comma blankBefore)
      rw [fields_append, fields_of_not_mem single, List.map_append, List.map_singleton,
        trim_append_right blankBefore, map_trim_fields_append_left isBlank_comma blankAfter,
        ih (List.cons_ne_nil _ _) others]
      rfl

/-- A listing stands for its names that are not blank. -/
theorem roomIds_of_isListing {names : List String} {text : List Char}
    (listing : IsListing names text) (commaFree : ∀ name ∈ names, ',' ∉ name.toList) :
    roomIds (String.ofList text) = (names.filter fun name => !allBlank name).map trimmed := by
  have texts : (fields ',' text).map (fun field => String.ofList (trim field)) =
      ((fields ',' text).map trim).map String.ofList := by
    rw [List.map_map]
    rfl
  have shown : (fun name => !allBlank name) =
      (fun room : String => decide (room ≠ "")) ∘ trimmed := by
    funext name
    have empty : trimmed name = "" ↔ allBlank name = true := ofList_trim_eq_empty_iff
    rw [Function.comp_apply, decide_not, Bool.not_inj_iff, Bool.eq_iff_iff, decide_eq_true_iff]
    exact empty.symm
  cases names with
  | nil =>
      cases listing
      decide
  | cons name rest =>
      rw [roomIds_eq, String.toList_ofList, texts,
        map_trim_fields_of_isListing listing (List.cons_ne_nil _ _) commaFree, List.map_map,
        List.filter_map, shown]
      rfl

/-- Rooms that are listed again come out as they are. -/
theorem roomIds_of_isListing_roomIds {rooms : String} {text : List Char}
    (listing : IsListing (roomIds rooms) text) :
    roomIds (String.ofList text) = roomIds rooms := by
  have listable (room : String) (member : room ∈ roomIds rooms) : IsListable room :=
    isListable_of_mem_roomIds member
  have visible (room : String) (member : room ∈ roomIds rooms) : (!allBlank room) = true := by
    have nonempty := (listable room member).nonempty
    rw [← (listable room member).trimmed] at nonempty
    rw [Bool.not_eq_true', Bool.eq_false_iff]
    exact fun blank => nonempty (ofList_trim_eq_empty_iff.mpr blank)
  rw [roomIds_of_isListing listing fun room member => (listable room member).commaFree,
    List.filter_eq_self.mpr visible]
  exact (List.map_congr_left fun room member => (listable room member).trimmed).trans
    (List.map_id _)

/-! ### Targets of a list -/

theorem map_room_roomTargets (rooms server token sender : String) :
    (roomTargets rooms server token sender).map Target.room = roomIds rooms := by
  rw [roomTargets, List.map_map]
  exact List.map_id _

/-- Fields that are joined with commas give one target for each that is not blank, in order. So
every room can be listed again, lists that are joined give the targets of both, and rooms that are
listed again give the same targets. -/
theorem targets_are_trimmed_fields (server token sender : String) :
    (∀ names : List String, (∀ name ∈ names, ',' ∉ name.toList) →
      roomTargets (",".intercalate names) server token sender =
        (names.filter fun name => !allBlank name).map fun name =>
          { room := trimmed name, server, token, sender }) ∧
    (∀ rooms, ∀ target ∈ roomTargets rooms server token sender, IsListable target.room) ∧
    (∀ front back, roomTargets (front ++ "," ++ back) server token sender =
      roomTargets front server token sender ++ roomTargets back server token sender) ∧
    (∀ rooms text,
      IsListing ((roomTargets rooms server token sender).map Target.room) text →
        roomTargets (String.ofList text) server token sender =
          roomTargets rooms server token sender) := by
  refine ⟨?_, ?_, ?_, ?_⟩
  · intro names commaFree
    have rooms := roomIds_of_isListing (isListing_intercalate names) commaFree
    rw [String.ofList_toList] at rooms
    rw [roomTargets, rooms, List.map_map]
    rfl
  · intro rooms target listed
    obtain ⟨room, member, rfl⟩ := List.mem_map.mp listed
    exact isListable_of_mem_roomIds member
  · intro front back
    rw [roomTargets, roomIds_append, List.map_append, roomTargets, roomTargets]
  · intro rooms text listing
    rw [map_room_roomTargets] at listing
    rw [roomTargets, roomIds_of_isListing_roomIds listing, roomTargets]

/-- A list with an ideographic space for a field, and its rooms with a line separator and a tab
around the comma. -/
theorem targets_of_spaced_list :
    let target (room : String) : Target :=
      { room, server := "chat.local", token := "secret", sender := "CI" }
    roomTargets (",".intercalate [" ops", "", "\u3000", "Dev\u00a0Team "]) "chat.local" "secret"
        "CI" = [target "ops", target "Dev\u00a0Team"] ∧
      roomTargets "ops\u2028,\tDev\u00a0Team" "chat.local" "secret" "CI" =
        [target "ops", target "Dev\u00a0Team"] := by
  intro target
  obtain ⟨joined, _, _, again⟩ := targets_are_trimmed_fields "chat.local" "secret" "CI"
  have first : roomTargets (",".intercalate [" ops", "", "\u3000", "Dev\u00a0Team "]) "chat.local"
      "secret" "CI" = [target "ops", target "Dev\u00a0Team"] :=
    (joined _ (by decide)).trans (by decide)
  have rooms : (roomTargets (",".intercalate [" ops", "", "\u3000", "Dev\u00a0Team "]) "chat.local"
      "secret" "CI").map Target.room = ["ops", "Dev\u00a0Team"] := by
    rw [first]
    rfl
  have listing : IsListing ["ops", "Dev\u00a0Team"] "ops\u2028,\tDev\u00a0Team".toList :=
    @IsListing.more "ops" _ [] ['\u2028'] ['\t'] _ (List.forall_mem_singleton.mpr (by decide))
      (List.forall_mem_singleton.mpr (by decide)) (.last "Dev\u00a0Team")
  have relisted := again _ _ (rooms ▸ listing)
  rw [String.ofList_toList] at relisted
  exact ⟨first, relisted.trans first⟩

end BuildNotices
