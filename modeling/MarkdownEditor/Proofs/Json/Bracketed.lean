import Mathlib.Data.List.Forall2
import MarkdownEditor.Proofs.Json.Decoded

/-!
# Reading objects and lists

The members of an object move a state on one after the other, and so do the elements of a list of
fixed form. If every member is decoded on its own, the whole is decoded by going through the
members in their order.
-/

namespace MarkdownEditor.Json

set_option autoImplicit false

variable {α β σ : Type} {m n : Nat} {t t' text rest more : Text}

theorem endsNumber_cons {c : Char} (hDigit : Text.isDigit c = false) (hPoint : c ≠ '.')
    (hSmall : c ≠ 'e') (hCapital : c ≠ 'E') (t : Text) : EndsNumber (c :: t) := by
  rintro d ⟨⟩
  exact ⟨hDigit, hPoint, hSmall, hCapital⟩

theorem endsNumber_of_isSpace {c : Char} (h : isSpace c = true) (t : Text) :
    EndsNumber (c :: t) := by
  simp only [isSpace, Bool.or_eq_true, beq_iff_eq] at h
  rcases h with ((rfl | rfl) | rfl) | rfl <;>
    exact endsNumber_cons (by decide) (by decide) (by decide) (by decide) t

theorem endsNumber_spaces {spaces : Text} (h : IsSpaces spaces) (hRest : EndsNumber rest) :
    EndsNumber (spaces ++ rest) := by
  cases spaces with
  | nil => exact hRest
  | cons c spaces => exact endsNumber_of_isSpace (h c List.mem_cons_self) _

theorem Further.endsNumber {closing : Char} {item : α → Text → Prop} {as : List α}
    (h : Further closing item as more) (hClosing : ∀ t, EndsNumber (closing :: t)) (rest : Text) :
    EndsNumber (more ++ rest) := by
  cases h with
  | close h =>
    rw [List.append_assoc]
    exact endsNumber_spaces h (hClosing _)
  | comma h h' hItem hMore =>
    rw [List.append_assoc]
    exact endsNumber_spaces h
      (endsNumber_cons (by decide) (by decide) (by decide) (by decide) _)

theorem endsNumber_brace (t : Text) : EndsNumber ('\x7d' :: t) :=
  endsNumber_cons (by decide) (by decide) (by decide) (by decide) t

theorem endsNumber_bracket (t : Text) : EndsNumber (']' :: t) :=
  endsNumber_cons (by decide) (by decide) (by decide) (by decide) t

theorem skipSpace_spaces_cons {spaces : Text} (h : IsSpaces spaces) {c : Char}
    (hc : isSpace c = false) (t : Text) : skipSpace (spaces ++ c :: t) = c :: t := by
  rw [skipSpace_spaces h, skipSpace_cons_of_not hc]

/-- Behind an item stands the end or a comma. -/
theorem Further.skipSpace_cases {closing : Char} {item : α → Text → Prop} {as : List α}
    (h : Further closing item as more) (hClosing : isSpace closing = false) (rest : Text) :
    (as.isEmpty = true ∧ skipSpace (more ++ rest) = closing :: rest) ∨
      (as.isEmpty = false ∧ ∃ tail, skipSpace (more ++ rest) = ',' :: tail) := by
  cases h with
  | close hSpaces =>
    rw [List.append_assoc]
    exact .inl ⟨rfl, skipSpace_spaces_cons hSpaces hClosing rest⟩
  | comma hSpaces _ _ _ =>
    rw [List.append_assoc]
    exact .inr ⟨rfl, _, skipSpace_spaces_cons hSpaces (by decide) _⟩

theorem reads_readKeyStart_end (first : Bool) (h : skipSpace t = '\x7d' :: rest) :
    Reads (readKeyStart first t) false rest := by
  unfold readKeyStart
  split
  · next h' => simp [h] at h'
  · next c rest' h' =>
    obtain ⟨rfl, rfl⟩ := List.cons.inj (h'.symm.trans h)
    exact ⟨_, rfl⟩

theorem reads_readKeyStart_first (h : skipSpace t = '"' :: rest) :
    Reads (readKeyStart true t) true rest := by
  unfold readKeyStart
  split
  · next h' => simp [h] at h'
  · next c rest' h' =>
    obtain ⟨rfl, rfl⟩ := List.cons.inj (h'.symm.trans h)
    exact ⟨_, rfl⟩

theorem reads_readKeyStart_later (hComma : skipSpace t = ',' :: t')
    (h : skipSpace t' = '"' :: rest) : Reads (readKeyStart false t) true rest := by
  unfold readKeyStart
  split
  · next h' => simp [hComma] at h'
  · next c rest' h' =>
    obtain ⟨rfl, rfl⟩ := List.cons.inj (h'.symm.trans hComma)
    rw [if_neg (by decide), if_neg (by decide), if_pos rfl]
    split
    · next h'' => simp [h] at h''
    · next d rest'' h'' =>
      obtain ⟨rfl, rfl⟩ := List.cons.inj (h''.symm.trans h)
      exact ⟨_, rfl⟩

def decodeMembers (decode : Text → σ → Term → Option σ) (state : σ) :
    List (Text × Term) → Option σ
  | [] => some state
  | (key, v) :: ms => (decode key state v).bind fun next => decodeMembers decode next ms

/-- After its key a member is decoded from the state before it. -/
def DecodesMember (member : Text → σ → Reader σ) (decode : Text → σ → Term → Option σ) : Prop :=
  ∀ (key : Text) (state : σ) ⦃v : Term⦄ ⦃text : Text⦄, Spells v text →
    ∀ ⦃spaces spaces' rest : Text⦄, IsSpaces spaces → IsSpaces spaces' → EndsNumber rest →
      Agrees (member key state (spaces ++ ':' :: (spaces' ++ (text ++ rest)))) (decode key state v)
        rest

section

variable {member : Text → σ → Reader σ} {decode : Text → σ → Term → Option σ}
  {ms : List (Text × Term)} {state : σ}

theorem reads_readMembers_end {first : Bool} (h : Reads (readKeyStart first t) false rest) :
    Reads (readMembers member first state t) state rest := by
  unfold readMembers
  exact h.bind fun hShort => ⟨hShort, rfl⟩

theorem agrees_readMembers_step {first : Bool} {key raw after : Text} {expected : Option σ}
    {later : σ → Option σ} (hStart : Reads (readKeyStart first t) true (raw ++ '"' :: after))
    (hKey : SpellsString key raw) (hMember : Agrees (member key state after) expected more)
    (hLater : ∀ next, Agrees (readMembers member false next more) (later next) rest) :
    Agrees (readMembers member first state t) (expected.bind later) rest := by
  -- the loop ends because less is left, so it is opened once for each member
  unfold readMembers
  refine hStart.agrees fun _ => (reads_readString hKey after).agrees fun _ => ?_
  exact hMember.bind fun next _ _ => (hLater next).keep fun _ _ => ⟨_, rfl⟩

theorem agrees_readMembers_member (hMember : DecodesMember member decode) {first : Bool}
    {m : Text × Term} {item : Text} {later : σ → Option σ}
    (hItem : SpellsMember Spells m item) (hMore : EndsNumber more)
    (hStart : ∀ tail, item ++ more = '"' :: tail → Reads (readKeyStart first t) true tail)
    (hLater : ∀ next, Agrees (readMembers member false next more) (later next) rest) :
    Agrees (readMembers member first state t) ((decode m.1 state m.2).bind later) rest := by
  obtain @⟨key, raw, spaces, spaces', t', v, hKey, hBefore, hAfter, hValue⟩ := hItem
  have hMember := hMember key state hValue hBefore hAfter hMore
  refine agrees_readMembers_step (hStart _ ?_) hKey hMember hLater
  simp only [List.cons_append, List.append_assoc]

theorem agrees_readMembers_further (hMember : DecodesMember member decode)
    (h : Further '\x7d' (SpellsMember Spells) ms more) (state : σ) (rest : Text) :
    Agrees (readMembers member false state (more ++ rest)) (decodeMembers decode state ms) rest := by
  induction h generalizing state with
  | close hSpaces =>
    rw [List.append_assoc]
    exact reads_readMembers_end (reads_readKeyStart_end false
      (skipSpace_spaces_cons hSpaces (by decide) rest))
  | comma hSpaces hSpaces' hItem hMore ih =>
    rw [List.append_assoc, List.cons_append, List.append_assoc, List.append_assoc]
    refine agrees_readMembers_member hMember hItem (hMore.endsNumber endsNumber_brace rest)
      (fun tail hTail => ?_) ih
    rw [hTail]
    exact reads_readKeyStart_later (skipSpace_spaces_cons hSpaces (by decide) _)
      (skipSpace_spaces_cons hSpaces' (by decide) tail)

/-- An object is decoded member by member, in the order in which they stand. -/
theorem agrees_readMembers (hMember : DecodesMember member decode)
    (h : Enclosed '\x7d' (SpellsMember Spells) ms t) (state : σ) (rest : Text) :
    Agrees (readMembers member true state (t ++ rest)) (decodeMembers decode state ms) rest := by
  cases h with
  | close hSpaces =>
    rw [List.append_assoc]
    exact reads_readMembers_end (reads_readKeyStart_end true
      (skipSpace_spaces_cons hSpaces (by decide) rest))
  | first hSpaces hItem hMore =>
    rw [List.append_assoc, List.append_assoc]
    refine agrees_readMembers_member hMember hItem (hMore.endsNumber endsNumber_brace rest)
      (fun tail hTail => ?_) fun next => agrees_readMembers_further hMember hMore next rest
    rw [hTail]
    exact reads_readKeyStart_first (skipSpace_spaces_cons hSpaces (by decide) tail)

end

def decodeElements : List (σ → Term → Option σ) → σ → List Term → Option σ
  | _, state, [] => some state
  | [], _, _ :: _ => none
  | field :: fields, state, v :: vs =>
    (field state v).bind fun next => decodeElements fields next vs

def DecodesElement (element : σ → Reader σ) (decode : σ → Term → Option σ) : Prop :=
  ∀ state, Decodes (element state) (decode state)

theorem reads_readElementStart_end (first : Bool) (h : skipSpace t = ']' :: rest) :
    Reads (readElementStart first t) false rest := by
  unfold readElementStart
  split
  · next h' => simp [h] at h'
  · next c rest' h' =>
    obtain ⟨rfl, rfl⟩ := List.cons.inj (h'.symm.trans h)
    rw [if_pos rfl]
    exact ⟨_, rfl⟩

theorem Spells.exists_append_cons {v : Term} (h : Spells v text) (more : Text) :
    ∃ c tail, text ++ more = c :: tail ∧ c ≠ ']' := by
  obtain ⟨c, tail, rfl, hc⟩ := h.exists_cons
  exact ⟨c, tail ++ more, rfl, Term.ne_of_starts hc (by cases v <;> rfl)⟩

theorem reads_readElementStart_first {v : Term} (hValue : Spells v text)
    (h : skipSpace t = text ++ more) : Reads (readElementStart true t) true (text ++ more) := by
  obtain ⟨c, tail, hText, hc⟩ := hValue.exists_append_cons more
  rw [hText] at h ⊢
  unfold readElementStart
  split
  · next h' => simp [h] at h'
  · next d rest' h' =>
    obtain ⟨rfl, rfl⟩ := List.cons.inj (h'.symm.trans h)
    rw [if_neg hc, if_pos rfl]
    exact ⟨_, rfl⟩

theorem reads_readElementStart_later {v : Term} (hComma : skipSpace t = ',' :: t')
    (hValue : Spells v text) (h : skipSpace t' = text ++ more) :
    Reads (readElementStart false t) true (text ++ more) := by
  obtain ⟨c, tail, hText, hc⟩ := hValue.exists_append_cons more
  rw [hText] at h ⊢
  unfold readElementStart
  split
  · next h' => simp [hComma] at h'
  · next d rest' h' =>
    obtain ⟨rfl, rfl⟩ := List.cons.inj (h'.symm.trans hComma)
    rw [if_neg (by decide), if_neg (by decide), if_pos rfl]
    split
    · next h'' _ => simp [h] at h''
    · next d rest'' h'' _ =>
      obtain ⟨rfl, rfl⟩ := List.cons.inj (h''.symm.trans h)
      rw [if_neg hc]
      exact ⟨_, rfl⟩

theorem reads_readListEnd (h : skipSpace t = ']' :: rest) : Reads (readListEnd t) () rest := by
  unfold readListEnd
  split
  · next h' => simp [h] at h'
  · next c tail h' =>
    obtain ⟨rfl, rfl⟩ := List.cons.inj (h'.symm.trans h)
    rw [if_pos rfl]
    exact ⟨_, rfl⟩

theorem readListEnd_refuses {c : Char} (h : skipSpace t = c :: rest) (hc : c ≠ ']') :
    ∃ f, readListEnd t = .error f := by
  unfold readListEnd
  split
  · exact ⟨_, rfl⟩
  · next d rest' h' =>
    obtain ⟨rfl, rfl⟩ := List.cons.inj (h'.symm.trans h)
    rw [if_neg hc]
    split
    · split <;> exact ⟨_, rfl⟩
    · exact ⟨_, rfl⟩

section

variable {fields : List (σ → Reader σ)} {decoders : List (σ → Term → Option σ)} {vs : List Term}

theorem agrees_readFields_nil {first : Bool} (expected : Option Unit) (state : σ)
    (h : Agrees (readListEnd t) expected rest) :
    Agrees (readFields first state t []) (expected.map fun _ => state) rest := by
  unfold readFields
  cases expected with
  | some a =>
    obtain ⟨hShort, hRead⟩ := h
    rw [hRead]
    exact ⟨_, rfl⟩
  | none =>
    obtain ⟨f, hRead⟩ := h
    rw [hRead]
    exact .error f

section

variable {field : σ → Reader σ}

theorem reads_readFields_end {first : Bool} {state : σ} (h : skipSpace t = ']' :: rest) :
    Reads (readFields first state t (field :: fields)) state rest := by
  unfold readFields
  exact (reads_readElementStart_end first h).bind fun _ => ⟨_, rfl⟩

theorem agrees_readFields_step {first : Bool} {state : σ} {decode : σ → Term → Option σ} {v : Term}
    {later : σ → Option σ} (hField : DecodesElement field decode) (hValue : Spells v text)
    (hMore : EndsNumber more)
    (hStart : Reads (readElementStart first t) true (text ++ more))
    (hLater : ∀ next, Agrees (readFields false next more fields) (later next) rest) :
    Agrees (readFields first state t (field :: fields)) ((decode state v).bind later) rest := by
  unfold readFields
  refine hStart.agrees fun _ => ?_
  have hSame : skipSpace (text ++ more) = text ++ more :=
    (hValue.startsDark.append more).skipSpace_eq
  exact (hField state hValue hSame hMore).bind fun next _ _ =>
    (hLater next).keep fun _ _ => ⟨_, rfl⟩

end

theorem agrees_readFields_further (hFields : List.Forall₂ DecodesElement fields decoders)
    (h : Further ']' Spells vs more) (state : σ) (rest : Text) :
    Agrees (readFields false state (more ++ rest) fields) (decodeElements decoders state vs)
      rest := by
  induction hFields generalizing vs more state with
  | nil =>
    cases h with
    | close hSpaces =>
      rw [List.append_assoc]
      exact agrees_readFields_nil (some ()) state
        (reads_readListEnd (skipSpace_spaces_cons hSpaces (by decide) rest))
    | comma hSpaces hSpaces' hItem hMore =>
      rw [List.append_assoc]
      exact agrees_readFields_nil none state
        (readListEnd_refuses (skipSpace_spaces_cons hSpaces (by decide) _) (by decide))
  | cons hField _ ih =>
    cases h with
    | close hSpaces =>
      rw [List.append_assoc]
      exact reads_readFields_end (skipSpace_spaces_cons hSpaces (by decide) rest)
    | comma hSpaces hSpaces' hItem hMore =>
      rw [List.append_assoc, List.cons_append, List.append_assoc, List.append_assoc]
      exact agrees_readFields_step hField hItem (hMore.endsNumber endsNumber_bracket rest)
        (reads_readElementStart_later (skipSpace_spaces_cons hSpaces (by decide) _) hItem
          (hItem.skipSpace_spaces hSpaces' _))
        fun next => ih hMore next

/-- A list of fixed form is decoded element by element; there may not be more of them. -/
theorem agrees_readFields (hFields : List.Forall₂ DecodesElement fields decoders)
    (h : Enclosed ']' Spells vs t) (state : σ) (rest : Text) :
    Agrees (readFields true state (t ++ rest) fields) (decodeElements decoders state vs) rest := by
  cases h with
  | @close spaces hSpaces =>
    rw [List.append_assoc]
    have hEnd : skipSpace (spaces ++ ']' :: rest) = ']' :: rest :=
      skipSpace_spaces_cons hSpaces (by decide) rest
    cases hFields with
    | nil => exact agrees_readFields_nil (some ()) state (reads_readListEnd hEnd)
    | cons _ _ => exact reads_readFields_end hEnd
  | @first v vs spaces text more hSpaces hItem hMore =>
    rw [List.append_assoc, List.append_assoc]
    have hSpace := hItem.skipSpace_spaces hSpaces (more ++ rest)
    cases hFields with
    | nil =>
      obtain ⟨c, tail, hText, hc⟩ := hItem.exists_append_cons (more ++ rest)
      rw [hText] at hSpace ⊢
      exact agrees_readFields_nil none state (readListEnd_refuses hSpace hc)
    | cons hField hFields =>
      exact agrees_readFields_step hField hItem (hMore.endsNumber endsNumber_bracket rest)
        (reads_readElementStart_first hItem hSpace)
        fun next => agrees_readFields_further hFields hMore next rest

end

section

variable {reader : Reader α} {decode : Term → Option α} {v : Term} {a : α}

theorem skipSpace_of_isSpaces {spaces : Text} (h : IsSpaces spaces) : skipSpace spaces = [] := by
  have hSpace := skipSpace_spaces h []
  rwa [List.append_nil] at hSpace

theorem endsNumber_of_isSpaces {spaces : Text} (h : IsSpaces spaces) : EndsNumber spaces := by
  have hNil : EndsNumber [] := fun _ hc => nomatch hc
  have hEnds := endsNumber_spaces h hNil
  rwa [List.append_nil] at hEnds

theorem IsDocument.exists_agrees (h : IsDocument v t) (hReader : Decodes reader decode) :
    ∃ spaces, IsSpaces spaces ∧ Agrees (reader t) (decode v) spaces := by
  obtain ⟨spaces, text, spaces', hSpaces, hText, hSpaces', rfl⟩ := h
  exact ⟨spaces', hSpaces',
    hReader hText (hText.skipSpace_spaces hSpaces spaces') (endsNumber_of_isSpaces hSpaces')⟩

theorem readWholeText_of_some (hReader : Decodes reader decode) (h : IsDocument v t)
    (hv : decode v = some a) : readWholeText reader t = .ok a := by
  obtain ⟨spaces, hSpaces, hAgrees⟩ := h.exists_agrees hReader
  rw [hv] at hAgrees
  obtain ⟨hShort, hRead⟩ := hAgrees
  simp only [readWholeText, hRead, bind, Except.bind, skipSpace_of_isSpaces hSpaces]
  rfl

theorem readWholeText_of_none (hReader : Decodes reader decode) (h : IsDocument v t)
    (hv : decode v = none) : ∃ f, readWholeText reader t = .error f := by
  obtain ⟨spaces, -, hAgrees⟩ := h.exists_agrees hReader
  rw [hv] at hAgrees
  exact refuses_bind hAgrees

end

end MarkdownEditor.Json
