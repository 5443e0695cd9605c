import MarkdownEditor.Proofs.Json.Numeral

/-!
# Readers as functions of the term

What a reader answers to a spelled term depends on the term alone: it is what a decoder makes of
it, or a fault if the decoder makes nothing of it.
-/

namespace MarkdownEditor.Json

set_option autoImplicit false

variable {α β : Type} {m n : Nat} {t text rest rest' : Text} {v : Term}

/-- The expected value was read and `rest` is what is left, or there is a fault where nothing is
expected. -/
def Agrees (outcome : Except Fault (Read α n)) (expected : Option α) (rest : Text) : Prop :=
  match expected with
  | some a => Reads outcome a rest
  | none => ∃ f, outcome = .error f

namespace Agrees

variable {outcome : Except Fault (Read α n)} {expected : Option α}

theorem error (f : Fault) : Agrees (.error f : Except Fault (Read α n)) none rest := ⟨f, rfl⟩

theorem map (h : Agrees outcome expected rest) (f : α → β) :
    Agrees (outcome.map (·.map f)) (expected.map f) rest := by
  cases expected with
  | some a => exact Reads.map h f
  | none =>
    obtain ⟨e, rfl⟩ := h
    exact .error e

theorem widen (h : Agrees outcome expected rest) (hLe : n ≤ m) :
    Agrees (outcome.map (·.widen hLe)) expected rest := by
  cases expected with
  | some a => exact Reads.widen h hLe
  | none =>
    obtain ⟨e, rfl⟩ := h
    exact .error e

theorem bind {f : Read α n → Except Fault (Read β m)} {g : α → Option β}
    (h : Agrees outcome expected rest)
    (hf : ∀ a, expected = some a → ∀ hShort, Agrees (f ⟨a, rest, hShort⟩) (g a) rest') :
    Agrees (outcome >>= f) (expected.bind g) rest' := by
  cases expected with
  | some a =>
    obtain ⟨hShort, rfl⟩ := h
    exact hf a rfl hShort
  | none =>
    obtain ⟨e, rfl⟩ := h
    exact .error e

theorem bind_map {f : Read α n → Except Fault (Read β m)} {g : α → β}
    (h : Agrees outcome expected rest)
    (hf : ∀ a hShort, Reads (f ⟨a, rest, hShort⟩) (g a) rest') :
    Agrees (outcome >>= f) (expected.map g) rest' := by
  cases expected with
  | some a => exact Reads.bind h (hf a)
  | none =>
    obtain ⟨e, rfl⟩ := h
    exact .error e

theorem keep {f : Read α n → Except Fault (Read α m)} (h : Agrees outcome expected rest)
    (hf : ∀ a hShort, Reads (f ⟨a, rest, hShort⟩) a rest') :
    Agrees (outcome >>= f) expected rest' := by
  have hMap := h.bind_map hf
  rwa [Option.map_id'] at hMap

end Agrees

theorem Reads.agrees {outcome : Except Fault (Read α n)} {a : α} {expected : Option β}
    {f : Read α n → Except Fault (Read β m)} (h : Reads outcome a rest)
    (hf : ∀ hShort, Agrees (f ⟨a, rest, hShort⟩) expected rest') :
    Agrees (outcome >>= f) expected rest' := by
  obtain ⟨hShort, rfl⟩ := h
  exact hf hShort

theorem refuses_bind {outcome : Except Fault α} {f : α → Except Fault β}
    (h : ∃ e, outcome = .error e) : ∃ e, (outcome >>= f) = .error e := by
  obtain ⟨e, rfl⟩ := h
  exact ⟨e, rfl⟩

namespace Term

/-- The characters that a spelling of the term can start with. -/
def starts : Term → Char → Bool
  | .null, c => c == 'n'
  | .bool _, c => c == 't' || c == 'f'
  | .number _, c => c == '-' || Text.isDigit c
  | .string _, c => c == '"'
  | .list _, c => c == '['
  | .object _, c => c == '\x7b'

theorem ne_of_starts {c d : Char} (h : v.starts c = true) (hd : v.starts d = false) : c ≠ d := by
  rintro rfl
  exact absurd (h.symm.trans hd) (by decide)

theorem not_isDigit_of_starts {c : Char} (h : v.starts c = true) (hv : ∀ a, v ≠ .number a) :
    c ≠ '-' ∧ Text.isDigit c = false := by
  cases v with
  | number a => exact absurd rfl (hv a)
  | bool b =>
    simp only [starts, Bool.or_eq_true, beq_iff_eq] at h
    rcases h with rfl | rfl <;> decide
  | null | string | list | object =>
    obtain rfl := beq_iff_eq.mp h
    decide

theorem starts_eq_false_of_isSpace {c : Char} (h : isSpace c = true) (v : Term) :
    v.starts c = false := by
  simp only [isSpace, Bool.or_eq_true, beq_iff_eq] at h
  rcases h with ((rfl | rfl) | rfl) | rfl <;> cases v <;> rfl

end Term

theorem Numeral.exists_body_eq (a : Numeral) :
    ∃ c tail, a.body = c :: tail ∧ Text.isDigit c = true := by
  obtain ⟨c, digits, hWhole, hc, -⟩ := a.isDigits_whole.exists_cons
  exact ⟨c, digits ++ (a.fractionText ++ a.exponentText), by rw [body, hWhole]; rfl, hc⟩

theorem Spells.exists_cons (h : Spells v text) :
    ∃ c tail, text = c :: tail ∧ v.starts c = true := by
  cases h with
  | null => exact ⟨'n', _, rfl, rfl⟩
  | bool b =>
    cases b with
    | true => exact ⟨'t', _, rfl, rfl⟩
    | false => exact ⟨'f', _, rfl, rfl⟩
  | number a =>
    obtain ⟨c, tail, hBody, hc⟩ := a.exists_body_eq
    unfold Numeral.text
    split
    · exact ⟨'-', _, rfl, rfl⟩
    · exact ⟨c, tail, hBody, by rw [Term.starts, hc, Bool.or_true]⟩
  | string h => exact ⟨'"', _, rfl, rfl⟩
  | list h => exact ⟨'[', _, rfl, rfl⟩
  | object h => exact ⟨'\x7b', _, rfl, rfl⟩

theorem Spells.startsDark (h : Spells v text) : StartsDark text := by
  obtain ⟨c, tail, rfl, hc⟩ := h.exists_cons
  refine ⟨c, tail, rfl, Bool.eq_false_iff.mpr fun hSpace => ?_⟩
  exact absurd (hc.symm.trans (Term.starts_eq_false_of_isSpace hSpace v)) (by decide)

theorem Spells.skipSpace_spaces (h : Spells v text) {spaces : Text} (hSpaces : IsSpaces spaces)
    (rest : Text) : skipSpace (spaces ++ (text ++ rest)) = text ++ rest := by
  rw [Json.skipSpace_spaces hSpaces, (h.startsDark.append rest).skipSpace_eq]

/-- On the spellings of a term the reader answers what `decode` makes of the term. -/
def Decodes (reader : Reader α) (decode : Term → Option α) : Prop :=
  ∀ ⦃v : Term⦄ ⦃text : Text⦄, Spells v text → ∀ ⦃t rest : Text⦄, skipSpace t = text ++ rest →
    EndsNumber rest → Agrees (reader t) (decode v) rest

namespace Term

def null? : Term → Option Unit
  | .null => some ()
  | _ => none

def bool? : Term → Option Bool
  | .bool b => some b
  | _ => none

def string? : Term → Option Text
  | .string s => some s
  | _ => none

def natural? : Term → Option Nat
  | .number a => a.natural?
  | _ => none

end Term

theorem boolean_true : boolean true = ['t', 'r', 'u', 'e'] := rfl

theorem boolean_false : boolean false = ['f', 'a', 'l', 's', 'e'] := rfl

theorem toList_null : "null".toList = ['n', 'u', 'l', 'l'] := rfl

section

variable {c : Char}

theorem readNull_of_cons (h : skipSpace t = c :: rest) :
    readNull t = if c = 'n' then
        (readIdent "ull".toList rest).map (·.widen (length_of_skipSpace_eq h))
      else .error (mismatch "unit" (c :: rest)) := by
  unfold readNull
  split
  · next h' => exact absurd (h.symm.trans h') (List.cons_ne_nil c rest)
  · next d tail h' =>
    obtain ⟨rfl, rfl⟩ := List.cons.inj (h'.symm.trans h)
    rfl

theorem reads_readNull (h : skipSpace t = "null".toList ++ rest) : Reads (readNull t) () rest := by
  rw [toList_null] at h
  rw [readNull_of_cons h, if_pos rfl]
  exact (reads_readIdent ['u', 'l', 'l'] rest).widen _

theorem readNull_refuses (h : skipSpace t = c :: rest) (hc : c ≠ 'n') :
    ∃ f, readNull t = .error f := by
  rw [readNull_of_cons h, if_neg hc]
  exact ⟨_, rfl⟩

theorem decodes_readNull : Decodes readNull Term.null? := by
  intro v text hv t rest ht _
  obtain ⟨c, tail, hText, hc⟩ := hv.exists_cons
  cases hv with
  | null => exact reads_readNull ht
  | bool | number | string | list | object =>
    rw [hText] at ht
    exact readNull_refuses ht (Term.ne_of_starts hc rfl)

theorem readBool_of_cons (h : skipSpace t = c :: rest) :
    readBool t = if c = 't' then (readIdent "rue".toList rest).map
        fun r => (r.map fun _ => true).widen (length_of_skipSpace_eq h)
      else if c = 'f' then (readIdent "alse".toList rest).map
        fun r => (r.map fun _ => false).widen (length_of_skipSpace_eq h)
      else .error (mismatch "a boolean" (c :: rest)) := by
  unfold readBool
  split
  · next h' => exact absurd (h.symm.trans h') (List.cons_ne_nil c rest)
  · next d tail h' =>
    obtain ⟨rfl, rfl⟩ := List.cons.inj (h'.symm.trans h)
    rfl

theorem reads_readBool (b : Bool) (h : skipSpace t = boolean b ++ rest) :
    Reads (readBool t) b rest := by
  cases b with
  | true =>
    rw [boolean_true] at h
    rw [readBool_of_cons h, if_pos rfl]
    exact (reads_readIdent ['r', 'u', 'e'] rest).map_widen (fun _ => true) _
  | false =>
    rw [boolean_false] at h
    rw [readBool_of_cons h, if_neg (by decide), if_pos rfl]
    exact (reads_readIdent ['a', 'l', 's', 'e'] rest).map_widen (fun _ => false) _

theorem readBool_refuses (h : skipSpace t = c :: rest) (hTrue : c ≠ 't') (hFalse : c ≠ 'f') :
    ∃ f, readBool t = .error f := by
  rw [readBool_of_cons h, if_neg hTrue, if_neg hFalse]
  exact ⟨_, rfl⟩

theorem decodes_readBool : Decodes readBool Term.bool? := by
  intro v text hv t rest ht _
  obtain ⟨c, tail, hText, hc⟩ := hv.exists_cons
  cases hv with
  | bool b => exact reads_readBool b ht
  | null | number | string | list | object =>
    rw [hText] at ht
    exact readBool_refuses ht (Term.ne_of_starts hc rfl) (Term.ne_of_starts hc rfl)

theorem readStringOf_of_cons (expected : String) (h : skipSpace t = c :: rest) :
    readStringOf expected t = if c = '"' then
        (readString rest).map (·.widen (length_le_of_skipSpace_eq h))
      else .error (mismatch expected (c :: rest)) := by
  unfold readStringOf
  split
  · next h' => exact absurd (h.symm.trans h') (List.cons_ne_nil c rest)
  · next d tail h' =>
    obtain ⟨rfl, rfl⟩ := List.cons.inj (h'.symm.trans h)
    rfl

theorem reads_readStringOf (expected : String) {s raw : Text} (hs : SpellsString s raw)
    (h : skipSpace t = '"' :: (raw ++ '"' :: rest)) : Reads (readStringOf expected t) s rest := by
  rw [readStringOf_of_cons expected h, if_pos rfl]
  exact (reads_readString hs rest).widen _

theorem readStringOf_refuses (expected : String) (h : skipSpace t = c :: rest) (hc : c ≠ '"') :
    ∃ f, readStringOf expected t = .error f := by
  rw [readStringOf_of_cons expected h, if_neg hc]
  exact ⟨_, rfl⟩

theorem quoted_append (raw rest : Text) :
    '"' :: (raw ++ ['"']) ++ rest = '"' :: (raw ++ '"' :: rest) := by
  simp

theorem decodes_readStringOf (expected : String) :
    Decodes (readStringOf expected) Term.string? := by
  intro v text hv t rest ht _
  obtain ⟨c, tail, hText, hc⟩ := hv.exists_cons
  cases hv with
  | string hs =>
    rw [quoted_append] at ht
    exact reads_readStringOf expected hs ht
  | null | bool | number | list | object =>
    rw [hText] at ht
    exact readStringOf_refuses expected ht (Term.ne_of_starts hc rfl)

theorem naturalOf_refuses {outcome : Except Fault (Read Number n)} (h : ReadsNoNatural outcome)
    (next : Read Nat n → Except Fault (Read Nat m)) :
    ∃ f, (outcome >>= fun r => naturalOf r >>= next) = .error f := by
  cases outcome with
  | error e => exact ⟨e, rfl⟩
  | ok r =>
    obtain ⟨value, unread, hShort⟩ := r
    cases value with
    | natural k => exact absurd rfl (h _ rfl k)
    | negative k => exact ⟨_, rfl⟩
    | float f => exact ⟨_, rfl⟩

theorem readNatural_of_cons (h : skipSpace t = c :: rest) :
    readNatural t = if c = '-' then readNumber true rest >>= fun r =>
        naturalOf r >>= fun k => .ok (k.widen (length_le_of_skipSpace_eq h))
      else if Text.isDigit c then readNumber false (c :: rest) >>= fun r =>
        naturalOf r >>= fun k => .ok (k.widen (length_cons_le_of_skipSpace_eq h))
      else .error (mismatch "usize" (c :: rest)) := by
  unfold readNatural
  split
  · next h' => exact absurd (h.symm.trans h') (List.cons_ne_nil c rest)
  · next d tail h' =>
    obtain ⟨rfl, rfl⟩ := List.cons.inj (h'.symm.trans h)
    rfl

theorem readNatural_minus (h : skipSpace t = '-' :: rest) : ∃ f, readNatural t = .error f := by
  rw [readNatural_of_cons h, if_pos rfl]
  exact naturalOf_refuses (readsNoNatural_readNumber rest) _

theorem ne_of_isDigit {d : Char} (h : Text.isDigit c = true) (hd : Text.isDigit d = false) :
    c ≠ d := by
  rintro rfl
  exact absurd (h.symm.trans hd) (by decide)

theorem agrees_readNatural_body {a : Numeral} (hMinus : a.minus = false) (hRest : EndsNumber rest)
    (h : skipSpace t = a.body ++ rest) : Agrees (readNatural t) a.natural? rest := by
  obtain ⟨c, tail, hBody, hc⟩ := a.exists_body_eq
  have hText : a.body ++ rest = c :: (tail ++ rest) := by rw [hBody, List.cons_append]
  rw [hText] at h
  rw [readNatural_of_cons h, if_neg (ne_of_isDigit hc rfl), if_pos hc]
  cases hNatural : a.natural? with
  | some k =>
    have hRead := Numeral.reads_readNumber hNatural hRest
    rw [hText] at hRead
    exact hRead.bind fun _ => ⟨_, rfl⟩
  | none =>
    have hNone := Numeral.readsNoNatural_body hMinus hNatural hRest
    rw [hText] at hNone
    exact naturalOf_refuses hNone _

theorem readNatural_refuses (h : skipSpace t = c :: rest) (hMinus : c ≠ '-')
    (hDigit : Text.isDigit c = false) : ∃ f, readNatural t = .error f := by
  rw [readNatural_of_cons h, if_neg hMinus, hDigit, if_neg (by decide)]
  exact ⟨_, rfl⟩

theorem Numeral.natural?_of_minus {a : Numeral} (h : a.minus = true) : a.natural? = none := by
  rw [natural?, h]
  rfl

theorem decodes_readNatural : Decodes readNatural Term.natural? := by
  intro v text hv t rest ht hRest
  obtain ⟨c, tail, hText, hc⟩ := hv.exists_cons
  cases hv with
  | number a =>
    cases hMinus : a.minus with
    | true =>
      rw [Numeral.text, hMinus, if_pos rfl] at ht
      rw [Term.natural?, Numeral.natural?_of_minus hMinus]
      exact readNatural_minus ht
    | false =>
      rw [Numeral.text, hMinus, if_neg (by decide)] at ht
      exact agrees_readNatural_body hMinus hRest ht
  | null | bool | string | list | object =>
    rw [hText] at ht
    obtain ⟨hMinus, hDigit⟩ := Term.not_isDigit_of_starts hc fun a h => nomatch h
    exact readNatural_refuses ht hMinus hDigit

end

end MarkdownEditor.Json
