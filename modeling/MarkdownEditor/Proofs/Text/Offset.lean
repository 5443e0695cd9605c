import MarkdownEditor.Proofs.Text.Line
import MarkdownEditor.Text.Basic

/-!
# Offsets at cuts

Where a text is cut between two characters, the byte offset of the cut and its character
offset say the same, and the parts keep their own offsets.
-/

namespace MarkdownEditor.Text

set_option autoImplicit false

/-- A cut between two characters has the characters before it in front. -/
theorem charOffset_append_byteSize (before after : Text) :
    charOffset (before ++ after) before.byteSize = before.length := by
  induction before with
  | nil => exact charOffset_zero after
  | cons c before ih =>
    have hPos : byteSize (c :: before) ≠ 0 := by
      have := c.utf8Size_pos
      rw [byteSize_cons]
      omega
    rw [List.cons_append, charOffset, if_neg hPos, byteSize_cons, Nat.add_sub_cancel_left, ih,
      List.length_cons, Nat.add_comm]

theorem charOffset_of_byteSize_le {t : Text} {b : Nat} (h : t.byteSize ≤ b) :
    charOffset t b = t.length := by
  induction t generalizing b with
  | nil => rfl
  | cons c t ih =>
    have hPos := c.utf8Size_pos
    rw [byteSize_cons] at h
    rw [charOffset, if_neg (by omega), ih (by omega), List.length_cons, Nat.add_comm]

theorem slice_append (before middle after : Text) :
    slice (before ++ middle ++ after) before.length (before ++ middle).length = middle := by
  rw [slice, List.take_left, List.drop_left]

/-- What stands before a byte offset is that long, unless the text ends before it. -/
theorem byteSize_take_charOffset {t : Text} {b : Nat} (h : b ≤ t.byteSize → IsBoundary t b) :
    byteSize (t.take (charOffset t b)) = min b t.byteSize := by
  rcases Nat.le_total b t.byteSize with hb | hb
  · obtain ⟨before, after, rfl, rfl⟩ := h hb
    rw [charOffset_append_byteSize, List.take_left, Nat.min_eq_left hb]
  · rw [charOffset_of_byteSize_le hb, List.take_length, Nat.min_eq_right hb]

theorem isBoundary_zero (t : Text) : IsBoundary t 0 := ⟨[], t, rfl, rfl⟩

/-- A cut behind the front part of a text is a cut of what follows it. -/
theorem IsBoundary.of_append {front t : Text} {n : Nat}
    (h : IsBoundary (front ++ t) (front.byteSize + n)) : IsBoundary t n := by
  obtain ⟨before, after, hText, hSize⟩ := h
  obtain ⟨middle, rfl, hRest⟩ := exists_append_of_byteSize_le hText (by omega)
  rw [byteSize_append] at hSize
  exact ⟨middle, after, hRest, by omega⟩

theorem charOffset_byteOffset (t : Text) (n : Nat) :
    charOffset t (byteOffset t n) = min n t.length := by
  have hCut := charOffset_append_byteSize (t.take n) (t.drop n)
  rwa [List.take_append_drop, List.length_take, ← byteOffset_eq_byteSize_take] at hCut

theorem isBoundary_byteOffset (t : Text) (n : Nat) : IsBoundary t (byteOffset t n) :=
  ⟨t.take n, t.drop n, (List.take_append_drop n t).symm, (byteOffset_eq_byteSize_take t n).symm⟩

theorem isBoundary_iff {t : Text} {b : Nat} : IsBoundary t b ↔ byteOffset t (charOffset t b) = b := by
  constructor
  · rintro ⟨before, after, rfl, rfl⟩
    rw [charOffset_append_byteSize, byteOffset_eq_byteSize_take, List.take_left]
  · intro h
    rw [← h]
    exact isBoundary_byteOffset t (charOffset t b)

instance (t : Text) (b : Nat) : Decidable (IsBoundary t b) := decidable_of_iff _ isBoundary_iff.symm

theorem length_le_byteSize (t : Text) : t.length ≤ t.byteSize := by
  induction t with
  | nil => exact Nat.le_refl 0
  | cons c t ih =>
    have := c.utf8Size_pos
    rw [List.length_cons, byteSize_cons]
    omega

theorem byteOffset_le (t : Text) (n : Nat) : byteOffset t n ≤ t.byteSize := by
  have hSize := byteSize_append (t.take n) (t.drop n)
  rw [List.take_append_drop, ← byteOffset_eq_byteSize_take] at hSize
  omega

theorem byteOffset_length (t : Text) : byteOffset t t.length = t.byteSize := by
  rw [byteOffset_eq_byteSize_take, List.take_length]

theorem byteOffset_min (t : Text) (n : Nat) :
    byteOffset t (min n t.length) = byteOffset t n := by
  rw [byteOffset_eq_byteSize_take, byteOffset_eq_byteSize_take]
  rcases Nat.le_total n t.length with h | h
  · rw [Nat.min_eq_left h]
  · rw [Nat.min_eq_right h, List.take_length, List.take_of_length_le h]

/-- Byte offsets are in the same order as the characters that start there. -/
theorem byteOffset_le_byteOffset_iff {t : Text} {n m : Nat} (hn : n ≤ t.length) (hm : m ≤ t.length) :
    byteOffset t n ≤ byteOffset t m ↔ n ≤ m := by
  induction t generalizing n m with
  | nil => simp_all
  | cons c t ih =>
    have hPos := c.utf8Size_pos
    cases n with
    | zero => simp
    | succ n =>
      cases m with
      | zero =>
        simp only [byteOffset]
        omega
      | succ m =>
        simp only [byteOffset, Nat.add_le_add_iff_left, Nat.add_le_add_iff_right]
        exact ih (Nat.le_of_succ_le_succ hn) (Nat.le_of_succ_le_succ hm)

theorem byteOffset_inj {t : Text} {n m : Nat} (hn : n ≤ t.length) (hm : m ≤ t.length) :
    byteOffset t n = byteOffset t m ↔ n = m := by
  rw [Nat.eq_iff_le_and_ge, byteOffset_le_byteOffset_iff hn hm, byteOffset_le_byteOffset_iff hm hn,
    Nat.le_antisymm_iff]

theorem byteSize_slice_le (t : Text) (a b : Nat) : (t.slice a b).byteSize ≤ t.byteSize := by
  have hTake := byteSize_append (t.take b) (t.drop b)
  have hDrop := byteSize_append ((t.take b).take a) ((t.take b).drop a)
  rw [List.take_append_drop] at hTake hDrop
  rw [slice]
  omega

theorem slice_min (t : Text) (a b : Nat) :
    t.slice (min a t.length) (min b t.length) = t.slice a b := by
  have hTake : t.take (min b t.length) = t.take b := by
    rcases Nat.le_total b t.length with h | h
    · rw [Nat.min_eq_left h]
    · rw [Nat.min_eq_right h, List.take_length, List.take_of_length_le h]
  rw [slice, slice, hTake]
  rcases Nat.le_total a t.length with h | h
  · rw [Nat.min_eq_left h]
  · rw [Nat.min_eq_right h, List.drop_eq_nil_of_le (List.length_take_le' b t),
      List.drop_eq_nil_of_le (Nat.le_trans (List.length_take_le' b t) h)]

theorem slice_eq_nil {t : Text} {a b : Nat} (h : min b t.length ≤ a) : t.slice a b = [] := by
  apply List.drop_eq_nil_of_le
  rwa [List.length_take]

end MarkdownEditor.Text
