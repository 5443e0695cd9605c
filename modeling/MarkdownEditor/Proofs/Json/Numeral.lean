import MarkdownEditor.Proofs.Json.Spelled

/-!
# Reading numbers as they are written

A number is read as a natural one just if it is written as one and fits 64 bits. Any number is
passed over whole, whatever its size. Behind a number must stand what cannot carry it on.
-/

namespace MarkdownEditor.Json

set_option autoImplicit false

variable {α : Type} {m n : Nat} {t rest digits : Text}

def StartsNoDigit (rest : Text) : Prop := ∀ c ∈ rest.head?, Text.isDigit c = false

/-- What cannot carry on a number. -/
def EndsNumber (rest : Text) : Prop :=
  ∀ c ∈ rest.head?, Text.isDigit c = false ∧ c ≠ '.' ∧ c ≠ 'e' ∧ c ≠ 'E'

theorem startsNoDigit_cons {c : Char} (h : Text.isDigit c = false) (t : Text) :
    StartsNoDigit (c :: t) := by
  rintro d ⟨⟩
  exact h

theorem EndsNumber.startsNoDigit (h : EndsNumber rest) : StartsNoDigit rest :=
  fun c hc => (h c hc).1

theorem takeWhile_isDigit_append (hDigits : ∀ c ∈ digits, Text.isDigit c = true)
    (h : StartsNoDigit rest) : (digits ++ rest).takeWhile Text.isDigit = digits := by
  rw [List.takeWhile_append_of_pos hDigits]
  cases rest with
  | nil => simp
  | cons c rest => simp [h c rfl]

theorem dropWhile_isDigit_append (hDigits : ∀ c ∈ digits, Text.isDigit c = true)
    (h : StartsNoDigit rest) : (digits ++ rest).dropWhile Text.isDigit = rest := by
  rw [List.dropWhile_append_of_pos hDigits]
  cases rest with
  | nil => simp
  | cons c rest => simp [h c rfl]

theorem head?_any_isDigit (h : StartsNoDigit rest) : rest.head?.any Text.isDigit = false :=
  (Option.any_eq_false Text.isDigit rest.head?).mpr h

theorem IsDigits.exists_cons (h : IsDigits t) : ∃ c digits, t = c :: digits ∧
    Text.isDigit c = true ∧ ∀ d ∈ digits, Text.isDigit d = true := by
  obtain ⟨hNonempty, hDigits⟩ := h
  obtain ⟨c, digits, rfl⟩ := List.exists_cons_of_ne_nil hNonempty
  exact ⟨c, digits, rfl, hDigits c List.mem_cons_self, fun d hd =>
    hDigits d (List.mem_cons_of_mem c hd)⟩

theorem le_ofDigitChars (digits : Text) (start : Nat) :
    start ≤ Nat.ofDigitChars 10 digits start := by
  have hStart : 1 * start ≤ 10 ^ digits.length * start :=
    Nat.mul_le_mul_right start (Nat.one_le_pow _ _ (by decide))
  rw [Nat.ofDigitChars_eq_ofDigitChars_zero]
  omega

theorem next_eq (start : Nat) (c : Char) :
    start * 10 + Text.digitValue c = 10 * start + (c.toNat - '0'.toNat) := by
  rw [Nat.mul_comm, Text.digitValue]

/-- As long as the whole number is in the limit, no digit is left over. -/
theorem absorb_eq {limit start : Nat} (h : Nat.ofDigitChars 10 digits start ≤ limit) :
    absorb limit start digits = (Nat.ofDigitChars 10 digits start, []) := by
  induction digits generalizing start with
  | nil => rfl
  | cons c digits ih =>
    rw [Nat.ofDigitChars_cons] at h ⊢
    simp only [absorb, next_eq]
    -- a prefix of the digits makes a number that is no larger
    rw [if_pos (Nat.le_trans (le_ofDigitChars digits _) h)]
    exact ih h

theorem absorb_left_ne_nil {limit start : Nat} (hStart : start ≤ limit)
    (h : limit < Nat.ofDigitChars 10 digits start) : (absorb limit start digits).2 ≠ [] := by
  induction digits generalizing start with
  | nil => exact absurd h (Nat.not_lt.mpr hStart)
  | cons c digits ih =>
    rw [Nat.ofDigitChars_cons] at h
    simp only [absorb, next_eq]
    split
    · next hNext => exact ih hNext h
    · exact List.cons_ne_nil c digits

theorem digitValue_le {c : Char} (h : Text.isDigit c = true) : Text.digitValue c ≤ 9 := by
  simp only [Text.isDigit, Bool.and_eq_true, decide_eq_true_eq, Char.le_def] at h
  have hUpper : c.toNat ≤ '9'.toNat := UInt32.le_iff_toNat_le.mp h.2
  have hNine : '9'.toNat = 57 := rfl
  have hZero : '0'.toNat = 48 := rfl
  rw [Text.digitValue]
  omega

theorem ofDigits_cons (c : Char) (digits : Text) :
    Text.ofDigits (c :: digits) = Nat.ofDigitChars 10 digits (Text.digitValue c) := by
  have hStart : 10 * 0 + Text.digitValue c = Text.digitValue c := by omega
  rw [Text.ofDigits, List.foldl_cons, hStart]
  rfl

section

variable {whole : Text}

/-- The integer part is kept exactly just if it fits 64 bits. -/
theorem exists_reads_readWhole (hWhole : IsDigits whole)
    (hZero : ∀ digits, whole = '0' :: digits → digits = []) (h : StartsNoDigit rest) :
    ∃ a, Reads (readWhole (whole ++ rest)) a rest ∧
      (Text.ofDigits whole ≤ maxWord → a = ⟨Text.ofDigits whole, 0, true⟩) ∧
      (maxWord < Text.ofDigits whole → a.exact = false) := by
  obtain ⟨c, digits, rfl, hc, hDigits⟩ := hWhole.exists_cons
  rw [List.cons_append, readWhole]
  -- the reader lets a leading zero stand alone
  by_cases hLeading : c = '0'
  · subst hLeading
    obtain rfl := hZero digits rfl
    rw [List.nil_append, if_pos rfl, head?_any_isDigit h, if_neg (by decide)]
    exact ⟨⟨0, 0, true⟩, ⟨_, rfl⟩, fun _ => rfl, fun hLarge => absurd hLarge (by decide)⟩
  · have hFirst : Text.digitValue c ≤ maxWord := Nat.le_trans (digitValue_le hc) (by decide)
    rw [if_neg hLeading, if_pos hc, ofDigits_cons]
    simp only [takeWhile_isDigit_append hDigits h, dropWhile_isDigit_append hDigits h]
    refine ⟨_, ⟨_, rfl⟩, fun hFits => ?_, fun hLarge => ?_⟩
    · rw [absorb_eq hFits]
      rfl
    · exact List.isEmpty_eq_false_iff.mpr (absorb_left_ne_nil hFirst hLarge)

end

theorem reads_readFraction_none (a : Mantissa) (h : ∀ c ∈ rest.head?, c ≠ '.') :
    Reads (readFraction a rest) a rest := by
  unfold readFraction
  split
  · next rest => exact absurd rfl (h '.' rfl)
  · exact ⟨_, rfl⟩

theorem exists_reads_readFraction (a : Mantissa) (hDigits : IsDigits digits)
    (h : StartsNoDigit rest) : ∃ b, Reads (readFraction a ('.' :: (digits ++ rest))) b rest ∧
      b.exact = false := by
  have hNonempty : digits.isEmpty = false := List.isEmpty_eq_false_iff.mpr hDigits.1
  unfold readFraction
  simp only [takeWhile_isDigit_append hDigits.2 h, dropWhile_isDigit_append hDigits.2 h, hNonempty,
    Bool.false_eq_true, if_false]
  exact ⟨_, ⟨_, rfl⟩, rfl⟩

namespace Numeral

theorem startsNoDigit_exponentText (a : Numeral) (h : StartsNoDigit rest) :
    StartsNoDigit (a.exponentText ++ rest) := by
  unfold exponentText
  split
  · exact h
  · next e _ =>
    refine startsNoDigit_cons ?_ _
    rcases e.isLetter with hLetter | hLetter <;> rw [hLetter] <;> decide

theorem exponentText_head (a : Numeral) (h : EndsNumber rest) :
    ∀ c ∈ (a.exponentText ++ rest).head?, c ≠ '.' := by
  unfold exponentText
  split
  · exact fun c hc => (h c hc).2.1
  · next e _ =>
    rintro c ⟨⟩
    rcases e.isLetter with hLetter | hLetter <;> rw [hLetter] <;> decide

theorem startsNoDigit_tail (a : Numeral) (h : EndsNumber rest) :
    StartsNoDigit (a.fractionText ++ (a.exponentText ++ rest)) := by
  unfold fractionText
  split
  · exact a.startsNoDigit_exponentText h.startsNoDigit
  · exact startsNoDigit_cons (by decide) _

theorem body_append (a : Numeral) (rest : Text) :
    a.body ++ rest = a.whole ++ (a.fractionText ++ (a.exponentText ++ rest)) := by
  rw [body, List.append_assoc, List.append_assoc]

/-- After the digits of a fraction nothing is kept exactly. -/
theorem exists_reads_readFraction (a : Numeral) (b : Mantissa) (h : EndsNumber rest) :
    ∃ c, Reads (readFraction b (a.fractionText ++ (a.exponentText ++ rest))) c
        (a.exponentText ++ rest) ∧
      (a.fraction = none → c = b) ∧ (a.fraction ≠ none → c.exact = false) := by
  cases hFraction : a.fraction with
  | none =>
    refine ⟨b, ?_, fun _ => rfl, fun h => absurd rfl h⟩
    rw [fractionText, hFraction]
    exact reads_readFraction_none b (a.exponentText_head h)
  | some digits =>
    obtain ⟨c, hRead, hExact⟩ := Json.exists_reads_readFraction b
      (a.isDigits_fraction digits hFraction) (a.startsNoDigit_exponentText h.startsNoDigit)
    rw [fractionText, hFraction]
    exact ⟨c, hRead, fun hNone => absurd hNone (Option.some_ne_none digits), fun _ => hExact⟩

end Numeral

/-- If a number is read, it is not a natural one. -/
def ReadsNoNatural (outcome : Except Fault (Read Number n)) : Prop :=
  ∀ r, outcome = .ok r → ∀ k, r.value ≠ .natural k

namespace ReadsNoNatural

theorem bind {outcome : Except Fault α} {f : α → Except Fault (Read Number n)}
    (h : ∀ a, ReadsNoNatural (f a)) : ReadsNoNatural (outcome >>= f) := by
  cases outcome with
  | error e => exact fun r hr => nomatch hr
  | ok a => exact h a

theorem after {β : Type} {outcome : Except Fault (Read β m)} {b : β}
    {f : Read β m → Except Fault (Read Number n)} (hRead : Reads outcome b rest)
    (h : ∀ hShort, ReadsNoNatural (f ⟨b, rest, hShort⟩)) : ReadsNoNatural (outcome >>= f) := by
  obtain ⟨hShort, rfl⟩ := hRead
  exact h hShort

theorem widen {outcome : Except Fault (Read Number m)} (h : ReadsNoNatural outcome)
    (hLe : m ≤ n) : ReadsNoNatural (outcome >>= fun r => .ok (r.widen hLe)) := by
  cases outcome with
  | error e => exact fun r hr => nomatch hr
  | ok a =>
    rintro r ⟨⟩
    exact h a rfl

end ReadsNoNatural

theorem readsNoNatural_numberOf (minus : Bool) (value : Option Float) (h : t.length < n) :
    ReadsNoNatural (numberOf minus value t h) := by
  cases value with
  | none => exact fun r hr => nomatch hr
  | some f =>
    rintro r ⟨⟩ k hk
    cases hk

theorem readsNoNatural_readExponent (minus : Bool) (a : Mantissa) (t : Text) :
    ReadsNoNatural (readExponent minus a t) := by
  intro r hr k
  unfold readExponent at hr
  simp only at hr
  split at hr
  · cases hr
  split at hr
  · cases hr
  split at hr
  · exact readsNoNatural_numberOf minus _ _ r hr k
  · split at hr
    · cases hr
    · cases hr
      exact fun hk => nomatch hk

theorem readsNoNatural_finish {minus : Bool} {a : Mantissa} (h : minus = true ∨ a.exact = false)
    (hShort : t.length < n) : ReadsNoNatural (readNumber.finish minus a t hShort) := by
  intro r hr k
  unfold readNumber.finish at hr
  split at hr
  · exact readsNoNatural_numberOf minus _ _ r hr k
  · next hExact =>
    have hMinus : minus = true := h.resolve_right fun h => hExact (by rw [h]; rfl)
    rw [hMinus, if_neg (by decide)] at hr
    split at hr
    all_goals
      cases hr
      exact fun hk => nomatch hk

/-- Behind a minus sign there is no natural number. -/
theorem readsNoNatural_readNumber (t : Text) : ReadsNoNatural (readNumber true t) := by
  unfold readNumber
  refine .bind fun whole => .bind fun a => ?_
  split
  · next c rest hUnread =>
    split
    · exact (readsNoNatural_readExponent true a.value rest).widen _
    · exact readsNoNatural_finish (.inl rfl) _
  · exact readsNoNatural_finish (.inl rfl) _

namespace Numeral

variable {a : Numeral} {k : Nat}

theorem natural?_eq_some (h : a.natural? = some k) :
    a.minus = false ∧ a.fraction = none ∧ a.exponent = none ∧ Text.ofDigits a.whole = k ∧
      k ≤ maxWord := by
  unfold natural? at h
  split at h
  · cases h
  · next hPlain =>
    simp only [Bool.or_eq_true, not_or, Bool.not_eq_true, Option.isSome_eq_false_iff,
      Option.isNone_iff_eq_none] at hPlain
    split at h
    · next hFits =>
      cases h
      exact ⟨hPlain.1.1, hPlain.1.2, hPlain.2, rfl, hFits⟩
    · cases h

theorem natural?_eq_none (h : a.natural? = none) :
    a.minus = true ∨ a.fraction ≠ none ∨ a.exponent ≠ none ∨
      maxWord < Text.ofDigits a.whole := by
  unfold natural? at h
  split at h
  · next hParts =>
    simp only [Bool.or_eq_true, Option.isSome_iff_ne_none] at hParts
    rcases hParts with (hMinus | hFraction) | hExponent
    · exact .inl hMinus
    · exact .inr (.inl hFraction)
    · exact .inr (.inr (.inl hExponent))
  · split at h
    · cases h
    · next hLarge => exact .inr (.inr (.inr (Nat.not_le.mp hLarge)))

theorem reads_readNumber (h : a.natural? = some k) (hRest : EndsNumber rest) :
    Reads (readNumber false (a.body ++ rest)) (.natural k) rest := by
  obtain ⟨-, hFraction, hExponent, hValue, hFits⟩ := natural?_eq_some h
  obtain ⟨b, hWhole, hExact, -⟩ :=
    exists_reads_readWhole a.isDigits_whole a.zero_alone (a.startsNoDigit_tail hRest)
  obtain ⟨c, hTail, hSame, -⟩ := a.exists_reads_readFraction b hRest
  obtain rfl := hSame hFraction
  obtain rfl := hExact (hValue ▸ hFits)
  have hUnread : a.exponentText ++ rest = rest := by rw [exponentText, hExponent, List.nil_append]
  rw [hUnread] at hWhole hTail
  have hFinish {n : Nat} (hShort : rest.length < n) :
      Reads (readNumber.finish false ⟨Text.ofDigits a.whole, 0, true⟩ rest hShort) (.natural k)
        rest := by
    rw [hValue]
    exact ⟨hShort, rfl⟩
  rw [body_append, hUnread]
  unfold readNumber
  refine hWhole.bind fun _ => hTail.bind fun _ => ?_
  split
  · next d rest' hUnread =>
    obtain rfl : rest = d :: rest' := hUnread
    obtain ⟨-, -, hSmall, hLarge⟩ := hRest d rfl
    rw [if_neg (by simp [hSmall, hLarge])]
    exact hFinish _
  · next hUnread =>
    obtain rfl : rest = [] := hUnread
    exact hFinish _

theorem readsNoNatural_body (hMinus : a.minus = false) (h : a.natural? = none)
    (hRest : EndsNumber rest) : ReadsNoNatural (readNumber false (a.body ++ rest)) := by
  obtain ⟨b, hWhole, -, hLarge⟩ :=
    exists_reads_readWhole a.isDigits_whole a.zero_alone (a.startsNoDigit_tail hRest)
  obtain ⟨c, hTail, hSame, hLost⟩ := a.exists_reads_readFraction b hRest
  -- where there is no exponent, a fraction or the size makes the number inexact
  have hExact (hHead : ∀ d ∈ (a.exponentText ++ rest).head?, d ≠ 'e' ∧ d ≠ 'E') :
      c.exact = false := by
    rcases natural?_eq_none h with hMinus' | hFraction | hExponent | hSize
    · exact absurd (hMinus.symm.trans hMinus') (by decide)
    · exact hLost hFraction
    · obtain ⟨e, he⟩ := Option.ne_none_iff_exists'.mp hExponent
      obtain ⟨hSmall, hCapital⟩ := hHead e.letter (by rw [exponentText, he]; rfl)
      rcases e.isLetter with hLetter | hLetter
      · exact absurd hLetter hSmall
      · exact absurd hLetter hCapital
    · by_cases hFraction : a.fraction = none
      · rw [hSame hFraction]
        exact hLarge hSize
      · exact hLost hFraction
  rw [body_append]
  unfold readNumber
  refine .after hWhole fun _ => .after hTail fun _ => ?_
  split
  · next d rest' hUnread =>
    have hCons : a.exponentText ++ rest = d :: rest' := hUnread
    split
    · exact (readsNoNatural_readExponent false c rest').widen _
    · next hLetter =>
      refine readsNoNatural_finish (.inr (hExact ?_)) _
      rw [hCons]
      rintro _ ⟨⟩
      simpa using hLetter
  · next hUnread =>
    refine readsNoNatural_finish (.inr (hExact ?_)) _
    have hNil : a.exponentText ++ rest = [] := hUnread
    rw [hNil]
    intro d hd
    cases hd

end Numeral

theorem reads_skipDigits (h : IsDigits digits) (hRest : StartsNoDigit rest) :
    Reads (skipDigits (digits ++ rest)) () rest := by
  obtain ⟨c, digits, rfl, hc, hDigits⟩ := h.exists_cons
  rw [List.cons_append, skipDigits, if_pos hc]
  simp only [dropWhile_isDigit_append hDigits hRest]
  exact ⟨_, rfl⟩

theorem reads_skipWhole {whole : Text} (hWhole : IsDigits whole)
    (hZero : ∀ digits, whole = '0' :: digits → digits = []) (h : StartsNoDigit rest) :
    Reads (skipWhole (whole ++ rest)) () rest := by
  have hSkip := reads_skipDigits hWhole h
  generalize hText : whole ++ rest = t at hSkip ⊢
  unfold skipWhole
  split
  · next rest' =>
    obtain ⟨c, digits, rfl, -, -⟩ := hWhole.exists_cons
    obtain ⟨rfl, hTail⟩ := List.cons.inj hText
    obtain rfl := hZero digits rfl
    obtain rfl : rest = rest' := hTail
    rw [head?_any_isDigit h, if_neg (by decide)]
    exact ⟨_, rfl⟩
  · exact hSkip

theorem splitSign_append (e : Exponent) (rest : Text) :
    (splitSign (e.sign.toList ++ (e.digits ++ rest))).2 = e.digits ++ rest := by
  cases hSign : e.sign with
  | some c => rcases e.isSign c hSign with rfl | rfl <;> rfl
  | none =>
    obtain ⟨c, digits, hDigits, hc, -⟩ := e.isDigits.exists_cons
    rw [hDigits, Option.toList_none, List.nil_append, List.cons_append]
    unfold splitSign
    split
    · next hText =>
      obtain ⟨rfl, -⟩ := List.cons.inj hText
      exact absurd hc (by decide)
    · next hText =>
      obtain ⟨rfl, -⟩ := List.cons.inj hText
      exact absurd hc (by decide)
    · rfl

namespace Numeral

theorem reads_skipFraction (a : Numeral) (h : EndsNumber rest) :
    Reads (skipFraction (a.fractionText ++ (a.exponentText ++ rest))) ()
      (a.exponentText ++ rest) := by
  cases hFraction : a.fraction with
  | none =>
    have hHead := a.exponentText_head h
    rw [fractionText, hFraction, List.nil_append]
    generalize a.exponentText ++ rest = t at hHead ⊢
    unfold skipFraction
    split
    · exact absurd rfl (hHead '.' rfl)
    · exact ⟨_, rfl⟩
  | some digits =>
    rw [fractionText, hFraction]
    exact (reads_skipDigits (a.isDigits_fraction digits hFraction)
      (a.startsNoDigit_exponentText h.startsNoDigit)).widen _

theorem reads_skipExponent (a : Numeral) (h : EndsNumber rest) :
    Reads (skipExponent (a.exponentText ++ rest)) () rest := by
  cases hExponent : a.exponent with
  | none =>
    rw [exponentText, hExponent, List.nil_append]
    unfold skipExponent
    split
    · exact ⟨_, rfl⟩
    · next c rest' =>
      obtain ⟨-, -, hSmall, hCapital⟩ := h c rfl
      rw [if_neg (by simp [hSmall, hCapital])]
      exact ⟨_, rfl⟩
  | some e =>
    have hLetter : (decide (e.letter = 'e') || decide (e.letter = 'E')) = true := by
      simpa using e.isLetter
    have hDigits := reads_skipDigits e.isDigits h.startsNoDigit
    rw [← splitSign_append e rest] at hDigits
    have hText : a.exponentText = e.letter :: (e.sign.toList ++ e.digits) := by
      rw [exponentText, hExponent]
      rfl
    rw [hText, List.cons_append, List.append_assoc, skipExponent, if_pos hLetter]
    exact hDigits.widen _

theorem reads_skipNumber (a : Numeral) (h : EndsNumber rest) :
    Reads (skipNumber (a.body ++ rest)) () rest := by
  rw [body_append]
  refine (reads_skipWhole a.isDigits_whole a.zero_alone (a.startsNoDigit_tail h)).bind fun _ => ?_
  refine (a.reads_skipFraction h).bind fun _ => (a.reads_skipExponent h).bind fun _ => ?_
  exact ⟨_, rfl⟩

end Numeral

end MarkdownEditor.Json
