import Mathlib.Order.Bounds.Basic
import Mathlib.Order.GaloisConnection.Basic
import MarkdownEditor.Proofs.Text.Offset
import MarkdownEditor.Proofs.Text.Utf8

/-!
# Converting offsets

Up to the size of the text, `charOffset` and `byteOffset` are a Galois connection: a byte
lies within the first `n` characters exactly when no more than `n` characters start before
it. So both keep the order, a character offset comes back from its byte, and a byte inside
a character comes back as the end of that character. A slice, which counts characters, has
the bytes that stand between the two ends.
-/

namespace MarkdownEditor.Text

set_option autoImplicit false

section

variable {t : Text}

theorem charOffset_le_iff {b : Nat} (h : b ≤ t.byteSize) (n : Nat) :
    charOffset t b ≤ n ↔ b ≤ byteOffset t n := by
  induction t generalizing b n with
  | nil =>
    obtain rfl : b = 0 := Nat.le_zero.mp h
    simp
  | cons c t ih =>
    rw [byteSize_cons] at h
    by_cases hb : b = 0
    · subst hb
      simp
    · rw [charOffset, if_neg hb]
      cases n with
      | zero =>
        rw [byteOffset_zero]
        omega
      | succ n =>
        -- what is left of the byte offset behind `c`
        have hRest := ih (b := b - c.utf8Size) (by omega) n
        rw [byteOffset]
        omega

variable (t)

theorem gc_charOffset_byteOffset : GaloisConnection
    (fun b : Set.Iic t.byteSize => charOffset t b)
    (fun n => (⟨byteOffset t n, byteOffset_le t n⟩ : Set.Iic t.byteSize)) :=
  fun b n => charOffset_le_iff b.2 n

theorem charOffset_min (b : Nat) : charOffset t (min b t.byteSize) = charOffset t b := by
  rcases Nat.le_total b t.byteSize with h | h
  · rw [Nat.min_eq_left h]
  · rw [Nat.min_eq_right h, charOffset_of_byteSize_le h, charOffset_of_byteSize_le (Nat.le_refl _)]

theorem byteOffset_mono : Monotone (byteOffset t) :=
  fun _ _ h => (gc_charOffset_byteOffset t).monotone_u h

theorem charOffset_mono : Monotone (charOffset t) := by
  intro b b' h
  have hMin : min b t.byteSize ≤ min b' t.byteSize := by omega
  rw [← charOffset_min t b, ← charOffset_min t b']
  exact (gc_charOffset_byteOffset t).monotone_l
    (a := ⟨_, Nat.min_le_right b _⟩) (b := ⟨_, Nat.min_le_right b' _⟩) hMin

/-- A byte is sent to the first cut that is not before it. -/
theorem isLeast_byteOffset_charOffset (b : Nat) :
    IsLeast {n | IsBoundary t n ∧ min b t.byteSize ≤ n} (byteOffset t (charOffset t b)) := by
  constructor
  · refine ⟨isBoundary_byteOffset t _, ?_⟩
    rw [← charOffset_le_iff (Nat.min_le_right _ _), charOffset_min]
  · rintro n ⟨hBoundary, hn⟩
    rw [← isBoundary_iff.mp hBoundary, ← charOffset_min t b]
    exact byteOffset_mono t (charOffset_mono t hn)

/-- The second byte of `å` is sent to the end of it. -/
example : byteOffset ['p', 'å', 's'] (charOffset ['p', 'å', 's'] 2) = 3 := by decide

end

theorem getElem?_slice (t : Text) (a b i : Nat) :
    (slice t a b)[i]? = if a + i < min b t.length then t[a + i]? else none := by
  rw [slice, List.getElem?_drop, List.getElem?_take]
  by_cases hText : a + i < t.length
  · simp [hText]
  · rw [List.getElem?_eq_none (Nat.le_of_not_lt hText), ite_self, ite_self]

theorem slice_append_slice {t : Text} {a b n : Nat} (h : a ≤ b) (hn : t.length ≤ n) :
    slice t 0 a ++ slice t a b ++ slice t b n = t := by
  have hFront : t.take a = (t.take b).take a := by
    rw [List.take_take, Nat.min_eq_left h]
  rw [slice, slice, slice, List.drop_zero, hFront, List.take_append_drop,
    List.take_of_length_le hn, List.take_append_drop]

theorem encode_take_append_encode_drop (t : Text) (n : Nat) :
    encode (t.take n) ++ encode (t.drop n) = encode t := by
  rw [← encode_append, List.take_append_drop]

theorem length_encode_take (t : Text) (n : Nat) :
    (encode (t.take n)).length = byteOffset t n := by
  rw [length_encode, byteOffset_eq_byteSize_take]

theorem encode_take (t : Text) (n : Nat) :
    encode (t.take n) = (encode t).take (byteOffset t n) := by
  rw [← encode_take_append_encode_drop t n, List.take_left' (length_encode_take t n)]

theorem encode_drop (t : Text) (n : Nat) :
    encode (t.drop n) = (encode t).drop (byteOffset t n) := by
  rw [← encode_take_append_encode_drop t n, List.drop_left' (length_encode_take t n)]

/-- The bytes of a slice are those between its two ends. -/
theorem encode_slice (t : Text) (a b : Nat) :
    encode (slice t a b) = ((encode t).take (byteOffset t b)).drop (byteOffset t a) := by
  rcases Nat.le_total a b with h | h
  · have hOffset : byteOffset (t.take b) a = byteOffset t a := by
      rw [byteOffset_eq_byteSize_take, byteOffset_eq_byteSize_take, List.take_take,
        Nat.min_eq_left h]
    rw [slice, encode_drop, encode_take, hOffset]
  · have hOrder := byteOffset_mono t h
    have hSize : ((encode t).take (byteOffset t b)).length ≤ byteOffset t a :=
      Nat.le_trans (List.length_take_le _ _) hOrder
    rw [slice_eq_nil (Nat.le_trans (Nat.min_le_left _ _) h), List.drop_eq_nil_of_le hSize]
    rfl

/-- Offsets are converted without a loss, as far as the text reaches, and slices are cut
where the converted offsets say. -/
structure ConvertsOffsets (t : Text) : Prop where
  boundary : ∀ n, IsBoundary t (byteOffset t n)
  byteOffset_mono : Monotone (byteOffset t)
  charOffset_mono : Monotone (charOffset t)
  connection : ∀ n, ∀ b ≤ t.byteSize, charOffset t b ≤ n ↔ b ≤ byteOffset t n
  charOffset_byteOffset : ∀ n, charOffset t (byteOffset t n) = min n t.length
  byteOffset_charOffset : ∀ b,
    IsLeast {n | IsBoundary t n ∧ min b t.byteSize ≤ n} (byteOffset t (charOffset t b))
  getElem?_slice : ∀ a b i,
    (slice t a b)[i]? = if a + i < min b t.length then t[a + i]? else none
  slice_eq_nil : ∀ a b, b ≤ a → slice t a b = []
  encode_slice : ∀ a b,
    encode (slice t a b) = ((encode t).take (byteOffset t b)).drop (byteOffset t a)
  slices : ∀ a b n, a ≤ b → t.length ≤ n → slice t 0 a ++ slice t a b ++ slice t b n = t

theorem convertsOffsets (t : Text) : ConvertsOffsets t where
  boundary := isBoundary_byteOffset t
  byteOffset_mono := byteOffset_mono t
  charOffset_mono := charOffset_mono t
  connection := fun n _ hb => charOffset_le_iff hb n
  charOffset_byteOffset := charOffset_byteOffset t
  byteOffset_charOffset := isLeast_byteOffset_charOffset t
  getElem?_slice := getElem?_slice t
  slice_eq_nil := fun _ _ h => slice_eq_nil (Nat.le_trans (Nat.min_le_left _ _) h)
  encode_slice := encode_slice t
  slices := fun _ _ _ h hn => slice_append_slice h hn

end MarkdownEditor.Text
