import Mathlib.Data.List.TakeDrop
import MarkdownEditor.CommandLine.Value

/-!
# How a selection is written

A selection is one offset, or two with a colon between them, the first colon of the text. An
offset is one or more digits for a number of 64 bits, perhaps after a plus sign and between
blanks. Exactly these texts are read, and of any other the first part that is no offset is
named.
-/

namespace MarkdownEditor.CommandLine

set_option autoImplicit false

/-- The part spells the offset `n`. -/
inductive IsOffset : Text → Nat → Prop where
  | intro {before sign digits after : Text} (hBefore : before.isBlank = true)
      (hSign : sign = [] ∨ sign = ['+']) (hNil : digits ≠ [])
      (hDigits : ∀ c ∈ digits, Text.isDigit c = true) (hAfter : after.isBlank = true)
      (hFits : Text.ofDigits digits ≤ 18446744073709551615) :
      IsOffset (before ++ (sign ++ digits) ++ after) (Text.ofDigits digits)

inductive Accepts : Text → Selection → Prop where
  | caret {value : Text} {n : Nat} (h : ':' ∉ value) (hn : IsOffset value n) :
      Accepts value ⟨n, n⟩
  | range {start stop : Text} {a b : Nat} (h : ':' ∉ start) (ha : IsOffset start a)
      (hb : IsOffset stop b) : Accepts (start ++ ':' :: stop) ⟨min a b, max a b⟩

/-- The text is none that is read, and the part is the first of it that is no offset. -/
inductive Rejects : Text → Text → Prop where
  | caret {value : Text} (h : ':' ∉ value) (hn : ¬ ∃ n, IsOffset value n) : Rejects value value
  | start {start stop : Text} (h : ':' ∉ start) (ha : ¬ ∃ n, IsOffset start n) :
      Rejects (start ++ ':' :: stop) start
  | stop {start stop : Text} (h : ':' ∉ start) (ha : ∃ n, IsOffset start n)
      (hb : ¬ ∃ n, IsOffset stop n) : Rejects (start ++ ':' :: stop) stop

theorem not_isBlankChar_of_isDigit {c : Char} (h : Text.isDigit c = true) :
    Text.isBlankChar c = false := by
  simp only [Text.isDigit, Bool.and_eq_true, decide_eq_true_eq, Char.le_def,
    UInt32.le_iff_toNat_le] at h
  have hFirst : 48 ≤ c.toNat := h.1
  have hLast : c.toNat ≤ 57 := h.2
  simp only [Text.isBlankChar, Bool.or_eq_false_iff, Bool.and_eq_false_iff, decide_eq_false_iff_not,
    beq_eq_false_iff_ne]
  omega

theorem exists_dropPlus (t : Text) : ∃ sign, (sign = [] ∨ sign = ['+']) ∧ t = sign ++ dropPlus t := by
  unfold dropPlus
  split
  · exact ⟨['+'], .inr rfl, rfl⟩
  · exact ⟨[], .inl rfl, rfl⟩

theorem dropPlus_append {sign digits : Text} (hSign : sign = [] ∨ sign = ['+'])
    (hDigits : ∀ c ∈ digits, Text.isDigit c = true) : dropPlus (sign ++ digits) = digits := by
  rcases hSign with rfl | rfl
  · unfold dropPlus
    split
    · next t h =>
      have hStart : digits = '+' :: t := h
      have hPlus := hDigits '+' (hStart ▸ List.mem_cons_self)
      exact absurd hPlus (by decide)
    · rfl
  · rfl

theorem trim_offset {before sign digits after : Text} (hBefore : before.isBlank = true)
    (hSign : sign = [] ∨ sign = ['+']) (hNil : digits ≠ [])
    (hDigits : ∀ c ∈ digits, Text.isDigit c = true) (hAfter : after.isBlank = true) :
    (before ++ (sign ++ digits) ++ after).trim = sign ++ digits := by
  have hChars : ∀ c ∈ sign ++ digits, Text.isBlankChar c = false := by
    intro c hc
    rcases List.mem_append.mp hc with hc | hc
    · rcases hSign with rfl | rfl
      · cases hc
      · rw [List.mem_singleton.mp hc]
        decide
    · exact not_isBlankChar_of_isDigit (hDigits c hc)
  apply Text.trim_append hBefore hAfter
  · simp [hNil]
  · exact fun c hc => hChars c (List.mem_of_mem_head? hc)
  · exact fun c hc => hChars c (List.mem_of_mem_getLast? hc)

theorem offset?_eq_some_iff {part : Text} {n : Nat} : offset? part = some n ↔ IsOffset part n := by
  constructor
  · intro h
    simp only [offset?] at h
    split at h
    · cases h
    · next hDigits =>
      obtain rfl := Option.some.inj h
      simp only [Bool.or_eq_true, decide_eq_true_eq, Bool.not_eq_true', not_or, List.isEmpty_iff,
        Bool.not_eq_false, List.all_eq_true, Nat.not_lt] at hDigits
      obtain ⟨before, after, hBefore, hAfter, hPart⟩ := Text.exists_trim part
      obtain ⟨sign, hSign, hTrim⟩ := exists_dropPlus part.trim
      have hOffset := IsOffset.intro hBefore hSign hDigits.1.1 hDigits.1.2 hAfter hDigits.2
      rwa [← hTrim, ← hPart] at hOffset
  · intro h
    cases h with
    | @intro before sign digits after hBefore hSign hNil hDigits hAfter hFits =>
    simp only [offset?, trim_offset hBefore hSign hNil hDigits hAfter, dropPlus_append hSign hDigits]
    have hNonempty : digits.isEmpty = false := List.isEmpty_eq_false_iff.mpr hNil
    have hAll : digits.all Text.isDigit = true := List.all_eq_true.mpr hDigits
    have hLarge : decide (maxOffset < Text.ofDigits digits) = false :=
      decide_eq_false (Nat.not_lt.mpr hFits)
    rw [hNonempty, hAll, hLarge]
    rfl

theorem readOffset_of_isOffset {part : Text} {n : Nat} (h : IsOffset part n) :
    readOffset part = .ok n := by
  rw [readOffset, offset?_eq_some_iff.mpr h]

theorem readOffset_of_not {part : Text} (h : ¬ ∃ n, IsOffset part n) :
    readOffset part = .error (.notAnOffset part) := by
  unfold readOffset
  cases hOffset : offset? part with
  | none => rfl
  | some n => exact absurd ⟨n, offset?_eq_some_iff.mp hOffset⟩ h

theorem IsOffset.not_mem {part : Text} {n : Nat} (h : IsOffset part n) : ':' ∉ part := by
  cases h with
  | @intro before sign digits after hBefore hSign hNil hDigits hAfter hFits =>
  have hBlank {t : Text} (ht : t.isBlank = true) : ':' ∉ t := by
    intro hMem
    exact absurd (List.all_eq_true.mp ht ':' hMem) (by decide)
  have hPlus : ':' ∉ sign := by
    rcases hSign with rfl | rfl <;> decide
  have hDigit : ':' ∉ digits := fun hMem => absurd (hDigits ':' hMem) (by decide)
  simp [hBlank hBefore, hBlank hAfter, hPlus, hDigit]

theorem isOffset_decimal {n : Nat} (h : n ≤ 18446744073709551615) :
    IsOffset (Text.decimal n) n := by
  have hOffset : IsOffset ([] ++ ([] ++ Text.decimal n) ++ []) (Text.ofDigits (Text.decimal n)) :=
    .intro rfl (.inl rfl) Nat.toDigits_ne_nil (fun c hc => Text.isDigit_of_mem_decimal hc) rfl
      (by rwa [Text.ofDigits_decimal])
  rwa [Text.ofDigits_decimal, List.nil_append, List.nil_append, List.append_nil] at hOffset

theorem exists_firstColon {value : Text} (h : ':' ∈ value) :
    ∃ start stop, value = start ++ ':' :: stop ∧ ':' ∉ start :=
  List.eq_append_cons_of_mem h

theorem span_append {start : Text} (h : ':' ∉ start) (stop : Text)
    (hStop : ∀ c ∈ stop.head?, c = ':') : (start ++ stop).span (· != ':') = (start, stop) := by
  have hPlain : ∀ c ∈ start, (c != ':') = true := by
    intro c hc
    exact bne_iff_ne.mpr fun hColon => h (hColon ▸ hc)
  rw [List.span_eq_takeWhile_dropWhile, List.takeWhile_append_of_pos hPlain,
    List.dropWhile_append_of_pos hPlain]
  cases stop with
  | nil => simp
  | cons c stop => simp [hStop c rfl]

theorem readSelection_of_not_mem {value : Text} (h : ':' ∉ value) :
    readSelection value = (readOffset value).map Selection.caret := by
  have hSpan := span_append h [] nofun
  rw [List.append_nil] at hSpan
  rw [readSelection, hSpan]
  cases readOffset value <;> rfl

theorem readSelection_append {start : Text} (h : ':' ∉ start) (stop : Text) :
    readSelection (start ++ ':' :: stop) = do
      return .between (← readOffset start) (← readOffset stop) := by
  have hSpan := span_append h (':' :: stop) (by rintro c ⟨⟩; rfl)
  rw [readSelection, hSpan]

theorem readSelection_of_accepts {value : Text} {s : Selection} (h : Accepts value s) :
    readSelection value = .ok s := by
  cases h with
  | caret hColon hn => rw [readSelection_of_not_mem hColon, readOffset_of_isOffset hn]; rfl
  | range hColon ha hb =>
    rw [readSelection_append hColon, readOffset_of_isOffset ha, readOffset_of_isOffset hb]
    rfl

theorem readSelection_of_rejects {value part : Text} (h : Rejects value part) :
    readSelection value = .error (.notAnOffset part) := by
  cases h with
  | caret hColon hn => rw [readSelection_of_not_mem hColon, readOffset_of_not hn]; rfl
  | start hColon ha => rw [readSelection_append hColon, readOffset_of_not ha]; rfl
  | stop hColon ha hb =>
    obtain ⟨a, ha⟩ := ha
    rw [readSelection_append hColon, readOffset_of_isOffset ha, readOffset_of_not hb]
    rfl

theorem accepts_or_rejects (value : Text) :
    (∃ s, Accepts value s) ∨ ∃ part, Rejects value part := by
  by_cases hColon : ':' ∈ value
  · obtain ⟨start, stop, rfl, hFirst⟩ := exists_firstColon hColon
    by_cases ha : ∃ a, IsOffset start a
    · by_cases hb : ∃ b, IsOffset stop b
      · obtain ⟨a, ha⟩ := ha
        obtain ⟨b, hb⟩ := hb
        exact .inl ⟨_, .range hFirst ha hb⟩
      · exact .inr ⟨stop, .stop hFirst ha hb⟩
    · exact .inr ⟨start, .start hFirst ha⟩
  · by_cases hn : ∃ n, IsOffset value n
    · obtain ⟨n, hn⟩ := hn
      exact .inl ⟨_, .caret hColon hn⟩
    · exact .inr ⟨value, .caret hColon hn⟩

theorem Accepts.count_le {value : Text} {s : Selection} (h : Accepts value s) :
    value.count ':' ≤ 1 := by
  cases h with
  | caret hColon hn =>
    rw [List.count_eq_zero_of_not_mem hColon]
    exact Nat.zero_le 1
  | @range start stop a b hColon ha hb =>
    have hStart : start.count ':' = 0 := List.count_eq_zero_of_not_mem hColon
    have hStop : stop.count ':' = 0 := List.count_eq_zero_of_not_mem hb.not_mem
    rw [List.count_append, List.count_cons_self]
    omega

/-- The texts that are read are those of the grammar, and any other is reported by its first
part that does not belong. -/
structure IsSelectionReader (read : Text → Except ValueFault Selection) : Prop where
  accepts : ∀ value s, read value = .ok s ↔ Accepts value s
  rejects : ∀ value fault, read value = .error fault ↔
    ∃ part, Rejects value part ∧ fault = .notAnOffset part ∧
      fault.message = ['\''] ++ part ++ "' is not a character offset".toList
  printed : ∀ a b, a ≤ 18446744073709551615 → b ≤ 18446744073709551615 →
    read (selectionText ⟨a, b⟩) = .ok ⟨min a b, max a b⟩
  secondColon : ∀ first second third,
    ∃ fault, read (first ++ ':' :: (second ++ ':' :: third)) = .error fault

theorem isSelectionReader_readSelection : IsSelectionReader readSelection where
  accepts value s := by
    refine ⟨fun hRead => ?_, readSelection_of_accepts⟩
    rcases accepts_or_rejects value with ⟨s', hAccepts⟩ | ⟨part, hRejects⟩
    · obtain rfl := Except.ok.inj (hRead.symm.trans (readSelection_of_accepts hAccepts))
      exact hAccepts
    · cases hRead.symm.trans (readSelection_of_rejects hRejects)
  rejects value fault := by
    constructor
    · intro hRead
      rcases accepts_or_rejects value with ⟨s, hAccepts⟩ | ⟨part, hRejects⟩
      · cases hRead.symm.trans (readSelection_of_accepts hAccepts)
      · obtain rfl := Except.error.inj (hRead.symm.trans (readSelection_of_rejects hRejects))
        exact ⟨part, hRejects, rfl, rfl⟩
    · rintro ⟨part, hRejects, rfl, -⟩
      exact readSelection_of_rejects hRejects
  printed a b ha hb := by
    have hStart := isOffset_decimal ha
    have hAccepts := Accepts.range hStart.not_mem hStart (isOffset_decimal hb)
    rw [selectionText, List.append_assoc]
    exact readSelection_of_accepts hAccepts
  secondColon first second third := by
    rcases accepts_or_rejects (first ++ ':' :: (second ++ ':' :: third)) with
      ⟨s, hAccepts⟩ | ⟨part, hRejects⟩
    · have hCount := hAccepts.count_le
      simp only [List.count_append, List.count_cons_self] at hCount
      omega
    · exact ⟨_, readSelection_of_rejects hRejects⟩

example : readSelection " +007 : 2".toList = .ok ⟨2, 7⟩ := by decide

end MarkdownEditor.CommandLine
