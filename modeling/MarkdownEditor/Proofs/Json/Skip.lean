import MarkdownEditor.Json.Skip
import MarkdownEditor.Proofs.Json.Bracketed

/-!
# Passing over values

Every spelled term is passed over just to its end, however deep its lists and objects are nested
and whatever its numbers and strings are.
-/

namespace MarkdownEditor.Json

set_option autoImplicit false

variable {α : Type} {t text rest rest' more : Text} {frame : Frame} {frames outer : List Frame}

/-- After a value the frames are closed in the text, with all the values that still come. -/
inductive Closes : List Frame → Text → Text → Prop
  | done (rest : Text) : Closes [] rest rest
  | close {frame : Frame} {outer : List Frame} {t rest rest' : Text}
      (h : skipSpace t = frame.closing :: rest) (hOuter : Closes outer rest rest') :
      Closes (frame :: outer) t rest'
  | comma {frame : Frame} {outer : List Frame} {t more t' rest' : Text}
      (h : skipSpace t = ',' :: more) (hKey : Reads (skipKey (frame :: outer) more) () t')
      (hValue : Reads (skipWithin (frame :: outer) t') () rest') : Closes (frame :: outer) t rest'

/-- How it goes on from the frames that are still open. -/
def Resumes (frames : List Frame) (unread rest' : Text) : Prop :=
  (frames = [] ∧ unread = rest') ∨
    (frames ≠ [] ∧ ∃ t', Reads (skipKey frames unread) () t' ∧
      Reads (skipWithin frames t') () rest')

theorem closing_ne_comma (frame : Frame) : frame.closing ≠ ',' := by cases frame <;> decide

theorem closeFrames_close (afterValue : Bool) (h : skipSpace t = frame.closing :: rest)
    (hOuter : ∀ next later, outer = next :: later → ∃ open_ unread,
      Reads (closeFrames true next later rest) open_ unread ∧ Resumes open_ unread rest')
    (hDone : outer = [] → rest = rest') :
    ∃ open_ unread, Reads (closeFrames afterValue frame outer t) open_ unread ∧
      Resumes open_ unread rest' := by
  unfold closeFrames
  split
  · next h' => simp [h] at h'
  · next c tail h' =>
    obtain ⟨rfl, rfl⟩ := List.cons.inj (h'.symm.trans h)
    have hComma : ¬ ((afterValue && decide (frame.closing = ',')) = true) := by
      simp [closing_ne_comma frame]
    rw [if_neg hComma, if_pos rfl]
    cases outer with
    | nil => exact ⟨[], tail, ⟨_, rfl⟩, .inl ⟨rfl, hDone rfl⟩⟩
    | cons next later =>
      obtain ⟨open_, unread, hRead, hResumes⟩ := hOuter next later rfl
      exact ⟨open_, unread, hRead.widen _, hResumes⟩

theorem closeFrames_open {c : Char} (h : skipSpace t = c :: rest) (hc : c ≠ frame.closing) :
    Reads (closeFrames false frame outer t) (frame :: outer) (c :: rest) := by
  unfold closeFrames
  split
  · next h' => simp [h] at h'
  · next d tail h' =>
    obtain ⟨rfl, rfl⟩ := List.cons.inj (h'.symm.trans h)
    rw [Bool.false_and, if_neg (by decide), if_neg hc, if_neg (by decide)]
    exact ⟨_, rfl⟩

theorem Closes.exists_reads (h : Closes (frame :: outer) t rest') :
    ∃ open_ unread, Reads (closeFrames true frame outer t) open_ unread ∧
      Resumes open_ unread rest' := by
  generalize hFrames : frame :: outer = frames at h
  induction h generalizing frame outer with
  | done rest => cases hFrames
  | close h hOuter ih =>
    cases hFrames
    refine closeFrames_close true h (fun next later hCons => ih hCons.symm) fun hNil => ?_
    subst hNil
    cases hOuter
    rfl
  | @comma frame outer t more t' rest' h hKey hValue =>
    cases hFrames
    refine ⟨frame :: outer, more, ?_, .inr ⟨List.cons_ne_nil _ _, t', hKey, hValue⟩⟩
    unfold closeFrames
    split
    · next h' => simp [h] at h'
    · next c tail h' =>
      obtain ⟨rfl, rfl⟩ := List.cons.inj (h'.symm.trans h)
      rw [if_pos (by decide)]
      exact ⟨_, rfl⟩

theorem reads_skipWithin_scalar (h : Reads (skipScalarOrOpen t) none rest)
    (hCloses : Closes frames rest rest') : Reads (skipWithin frames t) () rest' := by
  unfold skipWithin
  refine h.bind fun _ => ?_
  cases frames with
  | nil =>
    cases hCloses
    exact ⟨_, rfl⟩
  | cons frame outer =>
    obtain ⟨open_, unread, hRead, hResumes⟩ := hCloses.exists_reads
    refine hRead.bind fun _ => ?_
    rcases hResumes with ⟨rfl, rfl⟩ | ⟨hOpen, t', hKey, hValue⟩
    · exact ⟨_, rfl⟩
    · obtain ⟨next, later, rfl⟩ := List.exists_cons_of_ne_nil hOpen
      exact hKey.bind fun _ => hValue.bind fun _ => ⟨_, rfl⟩

theorem reads_skipWithin_open (h : Reads (skipScalarOrOpen t) (some frame) rest)
    (hClosed : ∃ open_ unread, Reads (closeFrames false frame frames rest) open_ unread ∧
      Resumes open_ unread rest') : Reads (skipWithin frames t) () rest' := by
  obtain ⟨open_, unread, hRead, hResumes⟩ := hClosed
  unfold skipWithin
  refine h.bind fun _ => hRead.bind fun _ => ?_
  rcases hResumes with ⟨rfl, rfl⟩ | ⟨hOpen, t', hKey, hValue⟩
  · exact ⟨_, rfl⟩
  · obtain ⟨next, later, rfl⟩ := List.exists_cons_of_ne_nil hOpen
    exact hKey.bind fun _ => hValue.bind fun _ => ⟨_, rfl⟩

/-- Within any frames the value is passed over, and then what is left of the frames. -/
def Skips (v : Term) : Prop :=
  ∀ ⦃text : Text⦄, Spells v text → ∀ ⦃frames : List Frame⦄ ⦃t rest rest' : Text⦄,
    skipSpace t = text ++ rest → EndsNumber rest → Closes frames rest rest' →
    Reads (skipWithin frames t) () rest'

/-- The item is passed over in a frame, with its key if it has one. -/
def SkipsItem (frame : Frame) (item : Text) : Prop :=
  ∀ ⦃outer : List Frame⦄ ⦃t rest rest' : Text⦄, skipSpace t = item ++ rest → EndsNumber rest →
    Closes (frame :: outer) rest rest' → ∃ t', Reads (skipKey (frame :: outer) t) () t' ∧
      Reads (skipWithin (frame :: outer) t') () rest'

/-- An item starts with what is neither white space nor the end of the frame. -/
def StartsItem (frame : Frame) (item : Text) : Prop :=
  ∃ c tail, item = c :: tail ∧ isSpace c = false ∧ c ≠ frame.closing

theorem StartsItem.skipSpace_spaces {item spaces : Text} (h : StartsItem frame item)
    (hSpaces : IsSpaces spaces) (rest : Text) :
    skipSpace (spaces ++ (item ++ rest)) = item ++ rest := by
  obtain ⟨c, tail, rfl, hDark, -⟩ := h
  exact skipSpace_spaces_cons hSpaces hDark (tail ++ rest)

theorem endsNumber_closing (frame : Frame) (t : Text) : EndsNumber (frame.closing :: t) := by
  cases frame with
  | list => exact endsNumber_bracket t
  | object => exact endsNumber_brace t

theorem isSpace_closing (frame : Frame) : isSpace frame.closing = false := by
  cases frame <;> decide

section

variable {item : α → Text → Prop} {as : List α}

/-- What stands behind an item is passed over, item by item, and then the outer frames. -/
theorem closes_further (hItems : ∀ a ∈ as, ∀ text, item a text → SkipsItem frame text)
    (hStarts : ∀ a text, item a text → StartsItem frame text)
    (h : Further frame.closing item as more) (hOuter : Closes outer rest rest') :
    Closes (frame :: outer) (more ++ rest) rest' := by
  induction h with
  | close hSpaces =>
    rw [List.append_assoc]
    exact .close (skipSpace_spaces_cons hSpaces (isSpace_closing frame) rest) hOuter
  | @comma a as spaces spaces' text more hSpaces hSpaces' hItem hMore ih =>
    rw [List.append_assoc, List.cons_append, List.append_assoc, List.append_assoc]
    have hLater := ih fun b hb => hItems b (List.mem_cons_of_mem a hb)
    obtain ⟨t', hKey, hValue⟩ := hItems a List.mem_cons_self text hItem
      ((hStarts a text hItem).skipSpace_spaces hSpaces' _)
      (hMore.endsNumber (endsNumber_closing frame) rest) hLater
    exact .comma (skipSpace_spaces_cons hSpaces (by decide) _) hKey hValue

theorem reads_skipWithin_enclosed (hItems : ∀ a ∈ as, ∀ text, item a text → SkipsItem frame text)
    (hStarts : ∀ a text, item a text → StartsItem frame text)
    (h : Enclosed frame.closing item as more) (hOuter : Closes outer rest rest')
    (hOpen : Reads (skipScalarOrOpen t) (some frame) (more ++ rest)) :
    Reads (skipWithin outer t) () rest' := by
  refine reads_skipWithin_open hOpen ?_
  cases h with
  | @close spaces hSpaces =>
    rw [List.append_assoc]
    have hClose : skipSpace (spaces ++ frame.closing :: rest) = frame.closing :: rest :=
      skipSpace_spaces_cons hSpaces (isSpace_closing frame) rest
    refine closeFrames_close false hClose (fun next later hCons => ?_) fun hNil => ?_
    · subst hCons
      exact hOuter.exists_reads
    · subst hNil
      cases hOuter
      rfl
  | @first a as spaces text more hSpaces hItem hMore =>
    rw [List.append_assoc, List.append_assoc]
    have hStart := hStarts a text hItem
    have hLater := closes_further (fun b hb => hItems b (List.mem_cons_of_mem a hb)) hStarts hMore
      hOuter
    have hSpace : skipSpace (text ++ (more ++ rest)) = text ++ (more ++ rest) :=
      hStart.skipSpace_spaces isSpaces_nil _
    obtain ⟨t', hKey, hValue⟩ := hItems a List.mem_cons_self text hItem hSpace
      (hMore.endsNumber (endsNumber_closing frame) rest) hLater
    refine ⟨frame :: outer, text ++ (more ++ rest), ?_,
      .inr ⟨List.cons_ne_nil _ _, t', hKey, hValue⟩⟩
    have hSpaces := hStart.skipSpace_spaces hSpaces (more ++ rest)
    obtain ⟨c, tail, rfl, -, hc⟩ := hStart
    exact closeFrames_open hSpaces hc

end

theorem skipScalarOrOpen_of_cons {c : Char} (h : skipSpace t = c :: rest) :
    skipScalarOrOpen t =
      let scalar {n : Nat} (hn : n ≤ t.length) (r : Except Fault (Read Unit n)) :
          Except Fault (Read (Option Frame) t.length) :=
        r.map fun r => (r.map fun _ => none).widen hn
      if c = 'n' then scalar (length_of_skipSpace_eq h) (readIdent "ull".toList rest)
      else if c = 't' then scalar (length_of_skipSpace_eq h) (readIdent "rue".toList rest)
      else if c = 'f' then scalar (length_of_skipSpace_eq h) (readIdent "alse".toList rest)
      else if c = '-' then scalar (length_le_of_skipSpace_eq h) (skipNumber rest)
      else if Text.isDigit c then
        scalar (length_cons_le_of_skipSpace_eq h) (skipNumber (c :: rest))
      else if c = '"' then scalar (length_le_of_skipSpace_eq h) (skipString rest)
      else if c = '[' then .ok ⟨some .list, rest, length_of_skipSpace_eq h⟩
      else if c = '\x7b' then .ok ⟨some .object, rest, length_of_skipSpace_eq h⟩
      else .error (.next .expectedValue (c :: rest)) := by
  unfold skipScalarOrOpen
  split
  · next h' => exact absurd (h.symm.trans h') (List.cons_ne_nil c rest)
  · next d tail h' =>
    obtain ⟨rfl, rfl⟩ := List.cons.inj (h'.symm.trans h)
    rfl

theorem reads_skipScalarOrOpen_bracket (h : skipSpace t = '[' :: rest) :
    Reads (skipScalarOrOpen t) (some .list) rest := by
  rw [skipScalarOrOpen_of_cons h]
  exact ⟨_, rfl⟩

theorem reads_skipScalarOrOpen_brace (h : skipSpace t = '\x7b' :: rest) :
    Reads (skipScalarOrOpen t) (some .object) rest := by
  rw [skipScalarOrOpen_of_cons h]
  exact ⟨_, rfl⟩

theorem reads_skipScalarOrOpen_name {name : Text} {c : Char}
    (hName : (c, name) ∈ [('n', ['u', 'l', 'l']), ('t', ['r', 'u', 'e']),
      ('f', ['a', 'l', 's', 'e'])]) (h : skipSpace t = c :: (name ++ rest)) :
    Reads (skipScalarOrOpen t) none rest := by
  have hRead := reads_readIdent name rest
  rw [skipScalarOrOpen_of_cons h]
  simp only [List.mem_cons, Prod.mk.injEq, List.not_mem_nil, or_false] at hName
  rcases hName with ⟨rfl, rfl⟩ | ⟨rfl, rfl⟩ | ⟨rfl, rfl⟩
  · exact hRead.map_widen (fun _ => none) _
  · exact hRead.map_widen (fun _ => none) _
  · exact hRead.map_widen (fun _ => none) _

theorem reads_skipScalarOrOpen_number (a : Numeral) (hRest : EndsNumber rest)
    (h : skipSpace t = a.text ++ rest) : Reads (skipScalarOrOpen t) none rest := by
  have hRead := a.reads_skipNumber hRest
  cases hMinus : a.minus with
  | true =>
    rw [Numeral.text, hMinus, if_pos rfl] at h
    rw [skipScalarOrOpen_of_cons h]
    exact hRead.map_widen (fun _ => none) _
  | false =>
    obtain ⟨c, tail, hBody, hc⟩ := a.exists_body_eq
    have hText : a.body ++ rest = c :: (tail ++ rest) := by rw [hBody, List.cons_append]
    rw [Numeral.text, hMinus, if_neg (by decide), hText] at h
    rw [hText] at hRead
    rw [skipScalarOrOpen_of_cons h]
    dsimp only
    rw [if_neg (ne_of_isDigit hc rfl), if_neg (ne_of_isDigit hc rfl),
      if_neg (ne_of_isDigit hc rfl), if_neg (ne_of_isDigit hc rfl), if_pos hc]
    exact hRead.map_widen (fun _ => none) _

theorem reads_skipScalarOrOpen_string {s raw : Text} (hs : SpellsString s raw)
    (h : skipSpace t = '"' :: (raw ++ '"' :: rest)) : Reads (skipScalarOrOpen t) none rest := by
  have hRead := reads_skipString hs rest
  rw [skipScalarOrOpen_of_cons h]
  exact hRead.map_widen (fun _ => none) _

theorem Spells.startsItem {v : Term} (h : Spells v text) : StartsItem .list text := by
  obtain ⟨c, tail, rfl, hDark⟩ := h.startsDark
  obtain ⟨_, _, hText, hc⟩ := h.exists_append_cons []
  obtain ⟨rfl, -⟩ := List.cons.inj hText
  exact ⟨c, tail, rfl, hDark, hc⟩

theorem skipsItem_list {v : Term} (hv : Skips v) (h : Spells v text) : SkipsItem .list text := by
  intro outer t rest rest' ht hRest hCloses
  exact ⟨t, ⟨_, rfl⟩, hv h ht hRest hCloses⟩

theorem SpellsMember.startsItem {m : Text × Term} {value : Term → Text → Prop}
    (h : SpellsMember value m text) : StartsItem .object text := by
  cases h
  exact ⟨'"', _, rfl, by decide, by decide⟩

theorem skipsItem_object {m : Text × Term} (hv : Skips m.2) (h : SpellsMember Spells m text) :
    SkipsItem .object text := by
  intro outer t rest rest' ht hRest hCloses
  obtain @⟨key, raw, spaces, spaces', value, v, hKey, hBefore, hAfter, hValue⟩ := h
  have hText : skipSpace t =
      '"' :: (raw ++ '"' :: (spaces ++ ':' :: (spaces' ++ (value ++ rest)))) := by
    rw [ht]
    simp only [List.cons_append, List.append_assoc]
  refine ⟨spaces' ++ (value ++ rest), ?_,
    hv hValue (hValue.skipSpace_spaces hAfter rest) hRest hCloses⟩
  unfold skipKey
  split
  · split
    · next h' => simp [hText] at h'
    · next c tail h' =>
      obtain ⟨rfl, rfl⟩ := List.cons.inj (h'.symm.trans hText)
      rw [if_pos rfl]
      refine (reads_skipString hKey _).bind fun _ => (reads_readColon ?_).bind fun _ => ⟨_, rfl⟩
      exact skipSpace_spaces_cons hBefore (by decide) _
  · next h => exact absurd rfl (h outer)

mutual

theorem skips : ∀ v : Term, Skips v
  | .null => fun _ h _ _ _ _ ht _ hCloses => by
    cases h
    rw [toList_null] at ht
    exact reads_skipWithin_scalar (reads_skipScalarOrOpen_name (by decide) ht) hCloses
  | .bool true => fun _ h _ _ _ _ ht _ hCloses => by
    cases h
    rw [boolean_true] at ht
    exact reads_skipWithin_scalar (reads_skipScalarOrOpen_name (by decide) ht) hCloses
  | .bool false => fun _ h _ _ _ _ ht _ hCloses => by
    cases h
    rw [boolean_false] at ht
    exact reads_skipWithin_scalar (reads_skipScalarOrOpen_name (by decide) ht) hCloses
  | .number a => fun _ h _ _ _ _ ht hRest hCloses => by
    cases h
    exact reads_skipWithin_scalar (reads_skipScalarOrOpen_number a hRest ht) hCloses
  | .string s => fun _ h _ _ _ _ ht _ hCloses => by
    cases h with
    | string hs =>
      rw [quoted_append] at ht
      exact reads_skipWithin_scalar (reads_skipScalarOrOpen_string hs ht) hCloses
  | .list vs => fun _ h _ _ _ _ ht _ hCloses => by
    have hItems := skips_elements vs
    cases h with
    | list h =>
      have hBody : Enclosed Frame.list.closing Spells vs _ := h
      refine reads_skipWithin_enclosed (fun v hv text h => ?_) (fun v text h => ?_) hBody hCloses
        (reads_skipScalarOrOpen_bracket ht)
      · exact skipsItem_list (hItems v hv) h
      · exact h.startsItem
  | .object ms => fun _ h _ _ _ _ ht _ hCloses => by
    have hItems := skips_members ms
    cases h with
    | object h =>
      have hBody : Enclosed Frame.object.closing (SpellsMember Spells) ms _ := h
      refine reads_skipWithin_enclosed (fun m hm text h => ?_) (fun m text h => ?_) hBody hCloses
        (reads_skipScalarOrOpen_brace ht)
      · exact skipsItem_object (hItems m hm) h
      · exact h.startsItem

theorem skips_elements : ∀ vs : List Term, ∀ v ∈ vs, Skips v
  | [] => fun _ h => nomatch h
  | v :: vs => List.forall_mem_cons.mpr ⟨skips v, skips_elements vs⟩

theorem skips_members : ∀ ms : List (Text × Term), ∀ m ∈ ms, Skips m.2
  | [] => fun _ h => nomatch h
  | (_, v) :: ms => List.forall_mem_cons.mpr ⟨skips v, skips_members ms⟩

end

/-- Any value is passed over. -/
theorem decodes_skipValue : Decodes skipValue fun _ => some () :=
  fun v _ h _ rest ht hRest => skips v h ht hRest (.done rest)

end MarkdownEditor.Json
