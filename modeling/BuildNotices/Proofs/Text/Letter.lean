import Mathlib.Data.List.Forall2
/-!
Letters in either case.

Only the ASCII letters have two cases here. So a word becomes a given one in small letters exactly
when each of its characters is the letter at that place or the capital for it.
-/

namespace BuildNotices
namespace Text

/-! ### One letter -/

theorem toNat_toLower (c : Char) :
    c.toLower.toNat = if 65 ≤ c.toNat ∧ c.toNat ≤ 90 then c.toNat + 32 else c.toNat := by
  have bounded : c.val.toNat < 4294967296 := c.val.toNat_lt
  unfold Char.toLower Char.toNat
  simp only [ge_iff_le, UInt32.le_iff_toNat_le]
  change (if _ : 65 ≤ c.val.toNat ∧ c.val.toNat ≤ 90 then _ else c : Char).val.toNat = _
  split
  · rw [UInt32.toNat_add]
    change (c.val.toNat + 32) % 4294967296 = _
    omega
  · rfl

theorem toNat_toUpper (c : Char) :
    c.toUpper.toNat = if 97 ≤ c.toNat ∧ c.toNat ≤ 122 then c.toNat - 32 else c.toNat := by
  unfold Char.toUpper Char.toNat
  simp only [UInt32.le_iff_toNat_le]
  change (if _ : 97 ≤ c.val.toNat ∧ c.val.toNat ≤ 122 then _ else c : Char).val.toNat = _
  split
  · -- The distance between the cases is added as its complement, so the sum goes round.
    rw [UInt32.toNat_add]
    change (c.val.toNat + 4294967264) % 4294967296 = _
    omega
  · rfl

theorem toLower_eq_iff {c letter : Char} (small : letter.isLower = true) :
    c.toLower = letter ↔ c = letter ∨ c = letter.toUpper := by
  have range : 97 ≤ letter.toNat ∧ letter.toNat ≤ 122 := by
    obtain ⟨above, below⟩ := Bool.and_eq_true_iff.mp small
    exact ⟨UInt32.le_iff_toNat_le.mp (of_decide_eq_true above),
      UInt32.le_iff_toNat_le.mp (of_decide_eq_true below)⟩
  simp only [← Char.toNat_inj, toNat_toLower, toNat_toUpper, if_pos range]
  split <;> omega

/-! ### Words -/

/-- Letter by letter a word in small letters or in capitals. -/
def InEitherCase (word letters : List Char) : Prop :=
  List.Forall₂ (fun c letter => c = letter ∨ c = letter.toUpper) word letters

theorem map_toLower_eq_iff {word letters : List Char}
    (small : ∀ letter ∈ letters, letter.isLower = true) :
    word.map Char.toLower = letters ↔ InEitherCase word letters := by
  unfold InEitherCase
  induction letters generalizing word with
  | nil => rw [List.map_eq_nil_iff, List.forall₂_nil_right_iff]
  | cons letter letters ih =>
      obtain ⟨first, others⟩ := List.forall_mem_cons.mp small
      cases word with
      | nil => simp
      | cons c word =>
          rw [List.map_cons, List.cons.injEq, List.forall₂_cons, toLower_eq_iff first, ih others]

/-- What holds of the letters and of their capitals holds of every character of a word. -/
theorem InEitherCase.forall_mem {word letters : List Char} (spelled : InEitherCase word letters)
    {test : Char → Bool}
    (every : (letters.all fun letter => test letter && test letter.toUpper) = true) :
    ∀ c ∈ word, test c = true := by
  induction spelled with
  | nil => exact List.forall_mem_nil _
  | cons cased _ ih =>
      rw [List.all_cons, Bool.and_eq_true, Bool.and_eq_true] at every
      obtain ⟨⟨asIs, capital⟩, others⟩ := every
      refine List.forall_mem_cons.mpr ⟨?_, ih others⟩
      rcases cased with rfl | rfl
      · exact asIs
      · exact capital

end Text
end BuildNotices
