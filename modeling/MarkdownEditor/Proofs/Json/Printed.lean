import Mathlib.Data.List.Forall2
import MarkdownEditor.Proofs.Json.Decoded

/-!
# How printed values are spelled

A printed value is one spelling of the term it stands for, so a reader gets it back from its
printed form.
-/

namespace MarkdownEditor.Json

set_option autoImplicit false

theorem hexValue?_hexDigit {k : Nat} (h : k < 16) : Text.hexValue? (hexDigit k) = some k := by
  revert k
  decide

theorem quad_small {k : Nat} (h : k < 32) :
    Quad k ['0', '0', hexDigit (k / 16), hexDigit (k % 16)] ∧ isLeading k = false ∧
      isTrailing k = false := by
  have hQuad : Quad (((0 * 16 + 0) * 16 + k / 16) * 16 + k % 16)
      ['0', '0', hexDigit (k / 16), hexDigit (k % 16)] :=
    .mk (by decide) (by decide) (hexValue?_hexDigit (by omega)) (hexValue?_hexDigit (by omega))
  have hValue : ((0 * 16 + 0) * 16 + k / 16) * 16 + k % 16 = k := by omega
  rw [hValue] at hQuad
  refine ⟨hQuad, ?_, ?_⟩
  · simp only [isLeading, Bool.and_eq_false_iff, decide_eq_false_iff_not]
    omega
  · simp only [isTrailing, Bool.and_eq_false_iff, decide_eq_false_iff_not]
    omega

/-- A character has an escape of its own, or a hexadecimal one, or stands for itself. -/
theorem escapeChar_cases (c : Char) :
    (∃ d, escapeChar c = ['\\', d] ∧ simpleEscape? d = some c) ∨
      (escapeChar c = ['\\', 'u', '0', '0', hexDigit (c.toNat / 16), hexDigit (c.toNat % 16)] ∧
        c.toNat < 32) ∨
      (escapeChar c = [c] ∧ c ≠ '"' ∧ c ≠ '\\' ∧ ¬ c < ' ') := by
  unfold escapeChar
  split
  · next h => exact .inl ⟨'"', rfl, by rw [h]; rfl⟩
  split
  · next h => exact .inl ⟨'\\', rfl, by rw [h]; rfl⟩
  split
  · next h => exact .inl ⟨'b', rfl, by rw [h]; rfl⟩
  split
  · next h => exact .inl ⟨'f', rfl, by rw [h]; rfl⟩
  split
  · next h => exact .inl ⟨'n', rfl, by rw [h]; rfl⟩
  split
  · next h => exact .inl ⟨'r', rfl, by rw [h]; rfl⟩
  split
  · next h => exact .inl ⟨'t', rfl, by rw [h]; rfl⟩
  split
  · next h => exact .inr (.inl ⟨rfl, h⟩)
  · next hQuote hEscape _ _ _ _ _ hc => exact .inr (.inr ⟨rfl, hQuote, hEscape, hc⟩)

theorem spellsString_escapeChar (c : Char) {s raw : Text} (h : SpellsString s raw) :
    SpellsString (c :: s) (escapeChar c ++ raw) := by
  rcases escapeChar_cases c with ⟨d, hEscape, hd⟩ | ⟨hEscape, hSmall⟩ | ⟨hEscape, hPlain⟩
  · rw [hEscape]
    exact .escaped hd h
  · obtain ⟨hHex, hLeading, hTrailing⟩ := quad_small hSmall
    have hString := SpellsString.unicode hHex hLeading hTrailing h
    rw [Char.ofNat_toNat] at hString
    rw [hEscape]
    exact hString
  · rw [hEscape]
    exact .plain hPlain.1 hPlain.2.1 hPlain.2.2 h

theorem spellsString_flatMap (s : Text) : SpellsString s (s.flatMap escapeChar) := by
  induction s with
  | nil => exact .nil
  | cons c s ih =>
    rw [List.flatMap_cons]
    exact spellsString_escapeChar c ih

theorem spells_string (s : Text) : Spells (.string s) (string s) := by
  have hSpells := Spells.string (spellsString_flatMap s)
  have hText : '"' :: (s.flatMap escapeChar ++ ['"']) = string s := by simp [string]
  rwa [hText] at hSpells

/-- Only zero has a leading zero. -/
theorem decimal_eq_zero_cons {k : Nat} {digits : Text} (h : Text.decimal k = '0' :: digits) :
    k = 0 ∧ digits = [] := by
  induction k using Nat.strongRecOn generalizing digits with
  | ind k ih =>
    by_cases hSmall : k < 10
    · rw [Text.decimal, Nat.toDigits_of_lt_base hSmall] at h
      obtain ⟨hHead, rfl⟩ := List.cons.inj h
      have hValue := congrArg Char.toNat hHead
      rw [Nat.toNat_digitChar_of_lt_ten hSmall] at hValue
      exact ⟨by simpa using hValue, rfl⟩
    · rw [Text.decimal, Nat.toDigits_of_base_le (by decide) (by omega)] at h
      cases hOuter : Nat.toDigits 10 (k / 10) with
      | nil => exact absurd hOuter Nat.toDigits_ne_nil
      | cons c outer =>
        rw [hOuter] at h
        obtain ⟨rfl, -⟩ := List.cons.inj h
        have := (ih (k / 10) (by omega) hOuter).1
        omega

theorem isDigits_decimal (k : Nat) : IsDigits (Text.decimal k) :=
  ⟨Nat.toDigits_ne_nil, fun _ hc => Text.isDigit_of_mem_decimal hc⟩

/-- The number as it is printed. -/
def Numeral.ofNat (k : Nat) : Numeral where
  minus := false
  whole := Text.decimal k
  fraction := none
  exponent := none
  isDigits_whole := isDigits_decimal k
  zero_alone := fun _ h => (decimal_eq_zero_cons h).2
  isDigits_fraction := fun _ h => nomatch h

theorem Numeral.text_ofNat (k : Nat) : (ofNat k).text = Text.decimal k := by
  simp [text, body, fractionText, exponentText, ofNat]

theorem Numeral.natural?_ofNat {k : Nat} (h : k ≤ maxWord) : (ofNat k).natural? = some k := by
  simp [natural?, ofNat, Text.ofDigits_decimal, h]

namespace Value

mutual

/-- What the printed value stands for. -/
def term : Value → Term
  | .null => .null
  | .bool b => .bool b
  | .natural n => .number (.ofNat n)
  | .string t => .string t
  | .list elements => .list (elementTerms elements)
  | .object members => .object (memberTerms members)

def elementTerms : List Value → List Term
  | [] => []
  | v :: rest => term v :: elementTerms rest

def memberTerms : List (Text × Value) → List (Text × Term)
  | [] => []
  | (key, v) :: rest => (key, term v) :: memberTerms rest

end

end Value

theorem isSpaces_newLine (depth : Nat) : IsSpaces (Value.newLine depth) := by
  intro c hc
  rcases List.mem_cons.mp hc with rfl | hc
  · rfl
  · rw [List.eq_of_mem_replicate hc]
    rfl

theorem joinWith_cons (separator item : Text) (items : List Text) :
    Text.joinWith separator (item :: items) = item ++ items.flatMap (separator ++ ·) := by
  induction items generalizing item with
  | nil => simp [Text.joinWith]
  | cons next items ih =>
    have hNext := ih next
    rw [Text.joinWith] at hNext ⊢
    rw [List.intersperse_cons_cons, List.flatten_cons, List.flatten_cons, hNext, List.flatMap_cons,
      List.append_assoc separator]

section

variable {α : Type} {item : α → Text → Prop} {as : List α} {items : List Text}

theorem further_printed (closing : Char) (depth : Nat) (h : List.Forall₂ item as items) :
    Further closing item as
      (items.flatMap ((',' :: Value.newLine (depth + 1)) ++ ·) ++
        (Value.newLine depth ++ [closing])) := by
  induction h with
  | nil => exact .close (isSpaces_newLine depth)
  | cons hItem _ ih =>
    rw [List.flatMap_cons]
    have hMore := Further.comma isSpaces_nil (isSpaces_newLine (depth + 1)) hItem ih
    simpa using hMore

theorem enclosed_bracketed (opening closing : Char) (depth : Nat) (h : List.Forall₂ item as items) :
    ∃ body, Value.bracketed opening closing depth items = opening :: body ∧
      Enclosed closing item as body := by
  cases h with
  | nil => exact ⟨[closing], rfl, .close isSpaces_nil⟩
  | cons hItem hItems =>
    refine ⟨_, ?_, .first (isSpaces_newLine (depth + 1)) hItem (further_printed closing depth hItems)⟩
    rw [Value.bracketed, List.isEmpty_cons, joinWith_cons]
    simp

end

mutual

theorem spells_prettyAt : ∀ (v : Value) (depth : Nat), Spells v.term (v.prettyAt depth)
  | .null, _ => .null
  | .bool b, _ => .bool b
  | .natural n, _ => by
    have hSpells := Spells.number (.ofNat n)
    rwa [Numeral.text_ofNat] at hSpells
  | .string t, _ => spells_string t
  | .list elements, depth => by
    obtain ⟨body, hText, hBody⟩ :=
      enclosed_bracketed '[' ']' depth (spells_prettyElements elements (depth + 1))
    rw [Value.prettyAt, hText]
    exact .list hBody
  | .object members, depth => by
    obtain ⟨body, hText, hBody⟩ :=
      enclosed_bracketed '\x7b' '\x7d' depth (spells_prettyMembers members (depth + 1))
    rw [Value.prettyAt, hText]
    exact .object hBody

theorem spells_prettyElements : ∀ (elements : List Value) (depth : Nat),
    List.Forall₂ Spells (Value.elementTerms elements) (Value.prettyElements depth elements)
  | [], _ => .nil
  | v :: rest, depth => .cons (spells_prettyAt v depth) (spells_prettyElements rest depth)

theorem spells_prettyMembers : ∀ (members : List (Text × Value)) (depth : Nat),
    List.Forall₂ (SpellsMember Spells) (Value.memberTerms members)
      (Value.prettyMembers depth members)
  | [], _ => .nil
  | (key, v) :: rest, depth => by
    refine .cons ?_ (spells_prettyMembers rest depth)
    have hBlank : IsSpaces [' '] := by decide
    have hMember := SpellsMember.mk (spellsString_flatMap key) isSpaces_nil hBlank
      (spells_prettyAt v depth)
    simpa [string] using hMember

end

theorem isDocument_pretty (v : Value) : IsDocument v.term v.pretty :=
  ⟨[], v.pretty, [], isSpaces_nil, spells_prettyAt v 0, isSpaces_nil,
    (List.append_nil v.pretty).symm⟩

end MarkdownEditor.Json
