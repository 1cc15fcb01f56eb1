import BuildNotices.Proofs.Text.Dictionary
import BuildNotices.Text.Html
import BuildNotices.Variables.Basic
/-!
Listings of variables.

A variable under a new name only adds to the listing, also when every character is written in a
longer form. So a listing that is listed itself is never the listing around it.
-/

namespace BuildNotices

open Text

section Joined

variable {α β : Type} (written : α → List β) (separator : List α)

theorem length_flatMap_intercalate_insert (front back : List (List α)) (part : List α) :
    ((separator.intercalate (front ++ back)).flatMap written).length +
        (part.flatMap written).length ≤
      ((separator.intercalate (front ++ part :: back)).flatMap written).length := by
  induction front with
  | nil =>
      cases back with
      | nil => simp [List.intercalate_nil, List.intercalate_singleton]
      | cons next rest =>
          rw [List.nil_append, List.nil_append, List.intercalate_cons_cons,
            List.flatMap_append, List.flatMap_append, List.length_append, List.length_append]
          omega
  | cons first others ih =>
      have filled : others ++ part :: back ≠ [] := by simp
      rw [List.cons_append, List.cons_append, List.intercalate_cons_of_ne_nil filled]
      by_cases alone : others ++ back = []
      · obtain ⟨rfl, rfl⟩ := List.append_eq_nil_iff.mp alone
        simp [List.intercalate_singleton]
      · rw [List.intercalate_cons_of_ne_nil alone]
        simp only [List.flatMap_append, List.length_append] at ih ⊢
        omega

end Joined

namespace Variables

def lineOf (entry : String × String) : List Char :=
  (entry.1 ++ "=" ++ entry.2).toList

theorem toList_listing (bindings : Variables) :
    (listing bindings).toList =
      ['\x7b'] ++ ", ".toList.intercalate (bindings.entries.map lineOf) ++ ['\x7d'] := by
  unfold listing
  rw [String.toList_append, String.toList_append, String.toList_intercalate, List.map_map]
  rfl

/-- Another name makes a listing longer, in whatever form its characters are written. -/
theorem length_listing_insert {bindings : Variables} {name : String}
    (fresh : bindings.get? name = none) (value : String) {written : Char → List Char}
    (visible : written '=' ≠ []) :
    ((listing bindings).toList.flatMap written).length <
      ((listing (bindings.insert name value)).toList.flatMap written).length := by
  obtain ⟨front, back, before, after⟩ := Dictionary.entries_insert_of_fresh fresh value
  have added := length_flatMap_intercalate_insert written ", ".toList (front.map lineOf)
    (back.map lineOf) (lineOf (name, value))
  have grown : 0 < ((lineOf (name, value)).flatMap written).length := by
    rw [List.length_pos_iff, ne_eq, List.flatMap_eq_nil_iff]
    intro silent
    exact visible (silent '=' (by simp [lineOf]))
  rw [toList_listing, toList_listing, before, after, List.map_append, List.map_append,
    List.map_cons]
  simp only [List.flatMap_append, List.length_append]
  omega

end Variables
end BuildNotices
