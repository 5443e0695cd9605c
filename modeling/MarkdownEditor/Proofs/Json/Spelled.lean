import MarkdownEditor.Json.Scalar
import MarkdownEditor.Proofs.Json.Term

/-!
# Reading strings and names

A reader that succeeds answers with the value that was spelled and leaves unread exactly what
follows. A reader that only passes over a string gets along with the same spellings.
-/

namespace MarkdownEditor.Json

set_option autoImplicit false

variable {α β : Type} {m n : Nat} {t rest rest' : Text}

/-- The value was read and `rest` is what is left. -/
def Reads (outcome : Except Fault (Read α n)) (value : α) (rest : Text) : Prop :=
  ∃ h, outcome = .ok ⟨value, rest, h⟩

namespace Reads

variable {outcome : Except Fault (Read α n)} {a : α} {b : β}

theorem map (h : Reads outcome a rest) (f : α → β) :
    Reads (outcome.map (·.map f)) (f a) rest := by
  obtain ⟨hShort, rfl⟩ := h
  exact ⟨hShort, rfl⟩

theorem widen (h : Reads outcome a rest) (hLe : n ≤ m) :
    Reads (outcome.map (·.widen hLe)) a rest := by
  obtain ⟨hShort, rfl⟩ := h
  exact ⟨Nat.lt_of_lt_of_le hShort hLe, rfl⟩

theorem map_widen (h : Reads outcome a rest) (f : α → β) (hLe : n ≤ m) :
    Reads (outcome.map fun r => (r.map f).widen hLe) (f a) rest := by
  obtain ⟨hShort, rfl⟩ := h
  exact ⟨Nat.lt_of_lt_of_le hShort hLe, rfl⟩

theorem bind {f : Read α n → Except Fault (Read β m)} (h : Reads outcome a rest)
    (hf : ∀ hShort, Reads (f ⟨a, rest, hShort⟩) b rest') : Reads (outcome >>= f) b rest' := by
  obtain ⟨hShort, rfl⟩ := h
  exact hf hShort

end Reads

theorem skipSpace_cons_of_not {c : Char} (h : isSpace c = false) (t : Text) :
    skipSpace (c :: t) = c :: t := by
  rw [skipSpace, List.dropWhile_cons_of_neg (by simp [h])]

theorem reads_readColon (h : skipSpace t = ':' :: rest) : Reads (readColon t) () rest := by
  unfold readColon
  split
  · next h' => simp [h] at h'
  · next c rest' h' =>
    obtain ⟨rfl, rfl⟩ := List.cons.inj (h.symm.trans h')
    exact ⟨_, rfl⟩

theorem reads_readIdent (name rest : Text) : Reads (readIdent name (name ++ rest)) () rest := by
  induction name with
  | nil => exact ⟨_, rfl⟩
  | cons c name ih =>
    rw [List.cons_append, readIdent, if_pos rfl]
    exact ih.widen _

theorem reads_readHex {k : Nat} {hex : Text} (h : Quad k hex) (rest : Text) :
    Reads (readHex (hex ++ rest)) k rest := by
  obtain ⟨ha, hb, hc, hd⟩ := h
  simp only [List.cons_append, List.nil_append, readHex, ha, hb, hc, hd]
  exact ⟨_, rfl⟩

theorem reads_readUnicode {k : Nat} {hex : Text} (h : Quad k hex) (hLeading : isLeading k = false)
    (hTrailing : isTrailing k = false) (rest : Text) :
    Reads (readUnicode (hex ++ rest)) (Char.ofNat k) rest := by
  refine (reads_readHex h rest).bind fun hShort => ?_
  simp only [hTrailing, hLeading, Bool.false_eq_true, if_false]
  exact ⟨hShort, rfl⟩

theorem reads_readPairSeparator (rest : Text) :
    Reads (readPairSeparator ('\\' :: 'u' :: rest)) () rest := by
  rw [readPairSeparator, if_pos rfl]
  exact ⟨_, rfl⟩

theorem isTrailing_of_isLeading {k : Nat} (h : isLeading k = true) : isTrailing k = false := by
  simp only [isLeading, isTrailing, Bool.and_eq_true, Bool.and_eq_false_iff, decide_eq_true_eq,
    decide_eq_false_iff_not] at h ⊢
  omega

theorem reads_readUnicode_pair {k l : Nat} {hex hex' : Text} (h : Quad k hex)
    (hLeading : isLeading k = true) (h' : Quad l hex') (hTrailing : isTrailing l = true)
    (rest : Text) :
    Reads (readUnicode (hex ++ '\\' :: 'u' :: (hex' ++ rest)))
      (Char.ofNat (0x10000 + (k - 0xD800) * 0x400 + (l - 0xDC00))) rest := by
  refine (reads_readHex h _).bind fun _ => ?_
  simp only [isTrailing_of_isLeading hLeading, hLeading, Bool.false_eq_true, if_false, if_true]
  refine (reads_readPairSeparator _).bind fun _ => (reads_readHex h' rest).bind fun _ => ?_
  simp only [hTrailing, if_true]
  exact ⟨_, rfl⟩

theorem reads_readEscape {c d : Char} (hc : c ≠ 'u') (h : simpleEscape? c = some d) (rest : Text) :
    Reads (readEscape (c :: rest)) d rest := by
  rw [readEscape, if_neg hc, h]
  exact ⟨_, rfl⟩

theorem reads_readEscape_unicode {c : Char} (h : Reads (readUnicode t) c rest) :
    Reads (readEscape ('u' :: t)) c rest := by
  rw [readEscape, if_pos rfl]
  exact h.widen _

theorem ne_of_simpleEscape? {c d : Char} (h : simpleEscape? c = some d) : c ≠ 'u' := by
  rintro rfl
  cases h

section

variable {s raw : Text}

theorem reads_readString_escaped {e : Text} {c : Char} (h : Reads (readEscape e) c t)
    (hs : Reads (readString t) s rest) : Reads (readString ('\\' :: e)) (c :: s) rest := by
  rw [readString, if_neg (by decide), if_pos rfl]
  refine h.bind fun _ => ?_
  obtain ⟨hShort, hRead⟩ := hs
  simp only [hRead]
  exact ⟨_, rfl⟩

theorem reads_readString_plain {c : Char} (hQuote : c ≠ '"') (hEscape : c ≠ '\\') (hc : ¬ c < ' ')
    (hs : Reads (readString t) s rest) : Reads (readString (c :: t)) (c :: s) rest := by
  rw [readString, if_neg hQuote, if_neg hEscape, if_neg hc]
  obtain ⟨hShort, hRead⟩ := hs
  simp only [hRead]
  exact ⟨_, rfl⟩

/-- Every spelling of a string is read as that string. -/
theorem reads_readString (h : SpellsString s raw) (rest : Text) :
    Reads (readString (raw ++ '"' :: rest)) s rest := by
  induction h with
  | nil =>
    rw [List.nil_append, readString, if_pos rfl]
    exact ⟨_, rfl⟩
  | plain hQuote hEscape hc _ ih => exact reads_readString_plain hQuote hEscape hc ih
  | escaped hc _ ih =>
    exact reads_readString_escaped (reads_readEscape (ne_of_simpleEscape? hc) hc _) ih
  | unicode hHex hLeading hTrailing _ ih =>
    rw [List.cons_append, List.cons_append, List.append_assoc]
    refine reads_readString_escaped (reads_readEscape_unicode ?_) ih
    exact reads_readUnicode hHex hLeading hTrailing _
  | pair hHex hLeading hHex' hTrailing _ ih =>
    rw [List.cons_append, List.cons_append, List.append_assoc, List.cons_append, List.cons_append,
      List.append_assoc]
    refine reads_readString_escaped (reads_readEscape_unicode ?_) ih
    exact reads_readUnicode_pair hHex hLeading hHex' hTrailing _

theorem reads_skipString_unicode {k : Nat} {hex : Text} (h : Quad k hex)
    (hs : Reads (skipString t) () rest) :
    Reads (skipString ('\\' :: 'u' :: (hex ++ t))) () rest := by
  rw [skipString, if_neg (by decide), if_pos rfl]
  simp only [if_true]
  refine (reads_readHex h t).bind fun _ => ?_
  obtain ⟨hShort, hSkip⟩ := hs
  simp only [hSkip]
  exact ⟨_, rfl⟩

theorem reads_skipString (h : SpellsString s raw) (rest : Text) :
    Reads (skipString (raw ++ '"' :: rest)) () rest := by
  induction h with
  | nil =>
    rw [List.nil_append, skipString.eq_def]
    exact ⟨_, rfl⟩
  | plain hQuote hEscape hc _ ih =>
    rw [List.cons_append, skipString.eq_def]
    simp only [hQuote, hEscape, hc, if_false]
    exact ih.bind fun _ => ⟨_, rfl⟩
  | escaped hc _ ih =>
    rw [List.cons_append, List.cons_append, skipString, if_neg (by decide), if_pos rfl]
    simp only [ne_of_simpleEscape? hc, if_false, hc, Option.isSome_some, if_true]
    exact ih.bind fun _ => ⟨_, rfl⟩
  | unicode hHex _ _ _ ih =>
    rw [List.cons_append, List.cons_append, List.append_assoc]
    exact reads_skipString_unicode hHex ih
  | pair hHex _ hHex' _ _ ih =>
    -- each half of a pair counts as an escape of its own
    rw [List.cons_append, List.cons_append, List.append_assoc, List.cons_append, List.cons_append,
      List.append_assoc]
    exact reads_skipString_unicode hHex (reads_skipString_unicode hHex' ih)

end

end MarkdownEditor.Json
