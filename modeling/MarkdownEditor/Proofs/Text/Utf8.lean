import MarkdownEditor.Text.Utf8

/-!
# Decoding what was encoded

Every text can be read back from its bytes. A character is read back from its own bytes,
whatever bytes follow, because its first byte tells how many there are and which of them
may come second. There are as many bytes as `byteSize` counts.
-/

namespace MarkdownEditor.Text

set_option autoImplicit false

theorem toNat_byte {n : Nat} (h : n < 256) : (byte n).toNat = n := by
  rw [byte, UInt8.toNat_ofNat']
  exact Nat.mod_eq_of_lt h

theorem toNat_continuationByte (n : Nat) : (continuationByte n).toNat = 0x80 + n % 64 :=
  toNat_byte (by omega)

theorem decodeAll_of_takeSequence {b : UInt8} {count bits low high n : Nat} {bytes rest : Bytes}
    (h : lead? b = some ⟨count, bits, low, high⟩)
    (hTake : takeSequence bits low high count bytes = (some n, rest)) :
    decodeAll (b :: bytes) = some (Char.ofNat n) :: decodeAll rest := by
  rw [decodeAll, h]
  simp only [hTake, Option.map_some]

theorem takeSequence_cons {low high bits n count : Nat} (h : low ≤ 0x80 + n % 64)
    (h' : 0x80 + n % 64 ≤ high) (rest : Bytes) :
    takeSequence bits low high (count + 1) (continuationByte n :: rest) =
      takeSequence (bits * 64 + n % 64) 0x80 0xBF count rest := by
  have hRange : (decide (low ≤ (continuationByte n).toNat) &&
      decide ((continuationByte n).toNat ≤ high)) = true := by
    rw [toNat_continuationByte, decide_eq_true h, decide_eq_true h', Bool.and_self]
  have hBits : (0x80 + n % 64) % 64 = n % 64 := by omega
  rw [takeSequence, if_pos hRange, toNat_continuationByte, hBits]

/-- From the third byte on, every continuation byte is in bounds. -/
theorem takeSequence_cons_any (bits n count : Nat) (rest : Bytes) :
    takeSequence bits 0x80 0xBF (count + 1) (continuationByte n :: rest) =
      takeSequence (bits * 64 + n % 64) 0x80 0xBF count rest :=
  takeSequence_cons (by omega) (by omega) rest

theorem lead?_two {n : Nat} (h : 0x80 ≤ n) (h' : n < 0x800) :
    lead? (byte (0xC0 + n / 64)) = some ⟨1, n / 64, 0x80, 0xBF⟩ := by
  have hByte : (byte (0xC0 + n / 64)).toNat = 0xC0 + n / 64 := toNat_byte (by omega)
  unfold lead?
  rw [hByte, if_neg (by omega), if_neg (by omega), if_pos (by omega), Nat.add_sub_cancel_left]

theorem lead?_three {n : Nat} (h : 0x800 ≤ n) (h' : n < 0x10000) (hValid : n < 0xD800 ∨ 0xDFFF < n) :
    ∃ low high, lead? (byte (0xE0 + n / 4096)) = some ⟨2, n / 4096, low, high⟩ ∧
      low ≤ 0x80 + n / 64 % 64 ∧ 0x80 + n / 64 % 64 ≤ high := by
  have hByte : (byte (0xE0 + n / 4096)).toNat = 0xE0 + n / 4096 := toNat_byte (by omega)
  unfold lead?
  rw [hByte, if_neg (by omega), if_neg (by omega), if_neg (by omega)]
  -- the second byte is bounded from below after E0 and from above after ED
  by_cases hLow : n / 4096 = 0
  · rw [if_pos (by omega), hLow]
    exact ⟨_, _, rfl, by omega, by omega⟩
  · rw [if_neg (by omega)]
    by_cases hHigh : n / 4096 = 0xD
    · rw [if_pos (by omega), hHigh]
      exact ⟨_, _, rfl, by omega, by omega⟩
    · rw [if_neg (by omega), if_pos (by omega), Nat.add_sub_cancel_left]
      exact ⟨_, _, rfl, by omega, by omega⟩

theorem lead?_four {n : Nat} (h : 0x10000 ≤ n) (h' : n < 0x110000) :
    ∃ low high, lead? (byte (0xF0 + n / 262144)) = some ⟨3, n / 262144, low, high⟩ ∧
      low ≤ 0x80 + n / 4096 % 64 ∧ 0x80 + n / 4096 % 64 ≤ high := by
  have hByte : (byte (0xF0 + n / 262144)).toNat = 0xF0 + n / 262144 := toNat_byte (by omega)
  unfold lead?
  rw [hByte, if_neg (by omega), if_neg (by omega), if_neg (by omega), if_neg (by omega),
    if_neg (by omega), if_neg (by omega)]
  by_cases hLow : n / 262144 = 0
  · rw [if_pos (by omega), hLow]
    exact ⟨_, _, rfl, by omega, by omega⟩
  · rw [if_neg (by omega)]
    by_cases hHigh : n / 262144 = 4
    · rw [if_neg (by omega), if_pos (by omega), hHigh]
      exact ⟨_, _, rfl, by omega, by omega⟩
    · rw [if_pos (by omega), Nat.add_sub_cancel_left]
      exact ⟨_, _, rfl, by omega, by omega⟩

theorem decodeAll_encodeChar_append (c : Char) (rest : Bytes) :
    decodeAll (encodeChar c ++ rest) = some c :: decodeAll rest := by
  have hChar : Char.ofNat c.toNat = c := Char.ofNat_toNat c
  have hValid : c.toNat < 0xD800 ∨ 0xDFFF < c.toNat ∧ c.toNat < 0x110000 := c.valid
  simp only [encodeChar]
  generalize c.toNat = n at hChar hValid ⊢
  split
  · next h1 =>
    have hLead : lead? (byte n) = some ⟨0, n, 0x80, 0xBF⟩ := by
      unfold lead?
      rw [toNat_byte (by omega), if_pos h1]
    rw [List.singleton_append, decodeAll_of_takeSequence hLead rfl, hChar]
  · split
    · next h1 h2 =>
      have hTake : takeSequence (n / 64) 0x80 0xBF 1 (continuationByte n :: rest) =
          (some n, rest) := by
        rw [takeSequence_cons_any, takeSequence, Nat.div_add_mod' n 64]
      rw [List.cons_append, List.singleton_append,
        decodeAll_of_takeSequence (lead?_two (by omega) h2) hTake, hChar]
    · split
      · next h1 h2 h3 =>
        obtain ⟨low, high, hLead, hLow, hHigh⟩ := lead?_three (n := n) (by omega) h3 (by omega)
        have hBits : (n / 4096 * 64 + n / 64 % 64) * 64 + n % 64 = n := by omega
        have hTake : takeSequence (n / 4096) low high 2
            (continuationByte (n / 64) :: continuationByte n :: rest) = (some n, rest) := by
          rw [takeSequence_cons hLow hHigh, takeSequence_cons_any, takeSequence, hBits]
        rw [List.cons_append, List.cons_append, List.singleton_append,
          decodeAll_of_takeSequence hLead hTake, hChar]
      · next h1 h2 h3 =>
        obtain ⟨low, high, hLead, hLow, hHigh⟩ := lead?_four (n := n) (by omega) (by omega)
        have hBits : ((n / 262144 * 64 + n / 4096 % 64) * 64 + n / 64 % 64) * 64 + n % 64 = n := by
          omega
        have hTake : takeSequence (n / 262144) low high 3 (continuationByte (n / 4096) ::
            continuationByte (n / 64) :: continuationByte n :: rest) = (some n, rest) := by
          rw [takeSequence_cons hLow hHigh, takeSequence_cons_any, takeSequence_cons_any,
            takeSequence, hBits]
        rw [List.cons_append, List.cons_append, List.cons_append, List.singleton_append,
          decodeAll_of_takeSequence hLead hTake, hChar]

theorem decodeAll_encode (t : Text) : decodeAll (encode t) = t.map some := by
  induction t with
  | nil => rw [encode, List.flatMap_nil, decodeAll, List.map_nil]
  | cons c t ih =>
    rw [encode, List.flatMap_cons, decodeAll_encodeChar_append, ← encode, ih, List.map_cons]

/-- A text is read back from its bytes. -/
theorem decode?_encode (t : Text) : decode? (encode t) = some t := by
  rw [decode?, decodeAll_encode]
  induction t with
  | nil => rfl
  | cons c t ih => simp [List.mapM_cons, ih]

theorem val_le_iff (c : Char) (n : UInt32) : c.val ≤ n ↔ c.toNat < n.toNat + 1 := by
  rw [UInt32.le_iff_toNat_le, Nat.lt_succ_iff]
  rfl

theorem utf8Size_eq (c : Char) : c.utf8Size =
    if c.toNat < 0x80 then 1 else if c.toNat < 0x800 then 2
    else if c.toNat < 0x10000 then 3 else 4 := by
  have hOne : c.val ≤ 0x7F ↔ c.toNat < 0x80 := val_le_iff c 0x7F
  have hTwo : c.val ≤ 0x7FF ↔ c.toNat < 0x800 := val_le_iff c 0x7FF
  have hThree : c.val ≤ 0xFFFF ↔ c.toNat < 0x10000 := val_le_iff c 0xFFFF
  simp only [← hOne, ← hTwo, ← hThree]
  rfl

theorem length_encodeChar (c : Char) : (encodeChar c).length = c.utf8Size := by
  rw [utf8Size_eq]
  simp only [encodeChar]
  split
  · rfl
  · split
    · rfl
    · split <;> rfl

theorem encode_append (s t : Text) : encode (s ++ t) = encode s ++ encode t :=
  List.flatMap_append

theorem length_encode (t : Text) : (encode t).length = byteSize t := by
  induction t with
  | nil => rfl
  | cons c t ih =>
    rw [encode, List.flatMap_cons, List.length_append, length_encodeChar, ← encode, ih,
      byteSize_cons]

end MarkdownEditor.Text
