import BuildNotices.Proofs.Url.Form
/-!
Texts with escapes.

An escaped text holds nothing of the set, apart from the percent signs of the escapes. When
percent signs are escaped too it reads back as the text it was made of, so no two texts are
escaped alike.
-/

namespace BuildNotices
namespace Url

variable {escaped : Char → Bool}

theorem mem_encode {chars : List Char} {c : Char} (member : c ∈ encode escaped chars) :
    c = '%' ∨ formKeeps c = true ∨ (c ∈ chars ∧ escaped c = false) := by
  obtain ⟨source, inside, written⟩ := List.mem_flatMap.mp member
  by_cases special : escaped source = true
  · rw [if_pos special] at written
    rcases mem_escapeChar written with sign | kept
    · exact Or.inl sign
    · exact Or.inr (Or.inl kept)
  · rw [if_neg special, List.mem_singleton] at written
    refine Or.inr (Or.inr ?_)
    rw [written]
    exact ⟨inside, by simpa using special⟩

/-- A character that is not used in escapes is in an escaped text only where the text itself
may have it. -/
theorem not_mem_encode {chars : List Char} {mark : Char} (foreign : mark ≠ '%')
    (unkept : formKeeps mark = false) (absent : escaped mark = true ∨ mark ∉ chars) :
    mark ∉ encode escaped chars := by
  intro member
  rcases mem_encode member with sign | kept | ⟨inside, allowed⟩
  · exact foreign sign
  · rw [unkept] at kept
    cases kept
  · rcases absent with refused | missing
    · rw [refused] at allowed
      cases allowed
    · exact missing inside

theorem encode_eq_self {chars : List Char} (allowed : ∀ c ∈ chars, escaped c = false) :
    encode escaped chars = chars := by
  induction chars with
  | nil => rfl
  | cons c rest ih =>
      have here : escaped c = false := allowed c List.mem_cons_self
      have later := ih fun d member => allowed d (List.mem_cons_of_mem c member)
      unfold encode at later ⊢
      rw [List.flatMap_cons, later, here]
      rfl

theorem decode?_encode (percent : escaped '%' = true) (chars : List Char) :
    decode? (encode escaped chars) = some (String.ofList chars) := by
  apply decode?_of_decodeBytes
  apply decodeBytes_flatMap
  intro c
  by_cases special : escaped c = true
  · exact Or.inl (if_pos special)
  · refine Or.inr ⟨if_neg special, ?_⟩
    rintro rfl
    exact special percent

theorem encode_injective (percent : escaped '%' = true) {first second : List Char}
    (same : encode escaped first = encode escaped second) : first = second := by
  have read := congrArg decode? same
  rw [decode?_encode percent, decode?_encode percent, Option.some.injEq,
    String.ofList_inj] at read
  exact read

end Url
end BuildNotices
