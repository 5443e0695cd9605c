import MarkdownEditor.Proofs.Formatting.InlineOrbit
import MarkdownEditor.Proofs.Formatting.Stretch

/-!
# Links

A link takes the place of the selection or, at a caret, of the word around it. That word
is the longest stretch of word characters that holds the caret, so every caret inside the
word or at one of its two ends finds the same word and makes the same link. The address is
a placeholder, and it is what the link leaves selected.
-/

namespace MarkdownEditor

set_option autoImplicit false

def IsWordChar (c : Char) : Prop :=
  ('A' ≤ c ∧ c ≤ 'Z') ∨ ('a' ≤ c ∧ c ≤ 'z') ∨ ('0' ≤ c ∧ c ≤ '9') ∨ c = '_' ∨ c = '-'

namespace Text

/-- `word` is the longest stretch of word characters of `t` that holds the caret `n`. -/
structure IsWordAt (t : Text) (n : Nat) (word : Selection) : Prop where
  start_le : word.start ≤ n
  le_stop : n ≤ word.stop
  stop_le : word.stop ≤ t.length
  inside : ∀ i c, word.start ≤ i → i < word.stop → t[i]? = some c → IsWordChar c
  before : ∀ i c, i + 1 = word.start → t[i]? = some c → ¬ IsWordChar c
  after : ∀ c, t[word.stop]? = some c → ¬ IsWordChar c

/-- The range that a link takes the place of, `s` being the settled selection. -/
structure IsLinkRange (t : Text) (s range : Selection) : Prop where
  selection : s.start < s.stop → range = s
  word : s.start = s.stop → t.IsWordAt s.start range

namespace IsWordAt

variable {t : Text} {n m : Nat} {word other : Selection}

theorem start_le_start (h : t.IsWordAt n word) (h' : t.IsWordAt m other)
    (hMeet : word.start ≤ other.stop) : word.start ≤ other.start := by
  by_contra hLess
  obtain ⟨i, hi⟩ : ∃ i, i + 1 = word.start := ⟨word.start - 1, by omega⟩
  have hInside := h'.stop_le
  have hChar := List.getElem?_eq_getElem (l := t) (i := i) (by omega)
  exact h.before i _ hi hChar (h'.inside i _ (by omega) (by omega) hChar)

theorem stop_le_stop (h : t.IsWordAt n word) (h' : t.IsWordAt m other)
    (hMeet : other.start ≤ word.stop) : other.stop ≤ word.stop := by
  by_contra hLess
  have hInside := h'.stop_le
  have hChar := List.getElem?_eq_getElem (l := t) (i := word.stop) (by omega)
  exact h.after _ hChar (h'.inside word.stop _ hMeet (by omega) hChar)

/-- The carets of a word all find that word. -/
theorem unique (h : t.IsWordAt n word) (h' : t.IsWordAt m other) (hStart : word.start ≤ m)
    (hStop : m ≤ word.stop) : other = word := by
  have hLeft : word.start ≤ other.stop := Nat.le_trans hStart h'.le_stop
  have hRight : other.start ≤ word.stop := Nat.le_trans h'.start_le hStop
  have hStarts := Nat.le_antisymm (h'.start_le_start h hRight) (h.start_le_start h' hLeft)
  have hStops := Nat.le_antisymm (h.stop_le_stop h' hRight) (h'.stop_le_stop h hLeft)
  cases word
  cases other
  rw [Selection.mk.injEq]
  exact ⟨hStarts, hStops⟩

end IsWordAt

end Text

theorem Framed.isWordAt {f : Framed} (hSelected : ∀ c ∈ f.selected, IsWordChar c)
    (hBefore : ∀ c, f.before.getLast? = some c → ¬ IsWordChar c)
    (hAfter : ∀ c, f.after.head? = some c → ¬ IsWordChar c) {n : Nat}
    (hStart : f.selection.start ≤ n) (hStop : n ≤ f.selection.stop) :
    f.text.IsWordAt n f.selection where
  start_le := hStart
  le_stop := hStop
  stop_le := f.stop_selection_le
  inside := by
    intro i c hi hi' hc
    rw [Framed.selection_start] at hi
    rw [Framed.selection_stop] at hi'
    rw [Framed.text, List.getElem?_append_left (by rw [List.length_append]; exact hi'),
      List.getElem?_append_right hi] at hc
    exact hSelected c (List.mem_of_getElem? hc)
  before := by
    intro i c hi hc
    rw [Framed.selection_start] at hi
    rw [Framed.text, List.append_assoc, List.getElem?_append_left (by omega)] at hc
    apply hBefore c
    rw [List.getLast?_eq_getElem?, ← hi, Nat.add_sub_cancel, hc]
  after := by
    intro c hc
    rw [Framed.text, Framed.selection_stop, ← List.length_append,
      List.getElem?_append_right (Nat.le_refl _), Nat.sub_self, ← List.head?_eq_getElem?] at hc
    exact hAfter c hc

/-- The outcome puts a link with this label in the place of the range, and selects its
address. -/
structure Outcome.InsertsLink (t : Text) (range : Selection) (label : Text) (o : Outcome) :
    Prop where
  label_eq : label = if range.selected t = [] then "text".toList else range.selected t
  edit : o.edit = some ⟨range, '[' :: label ++ "](url)".toList⟩
  text : o.text = t.take range.start ++ ('[' :: label ++ "](url)".toList) ++ t.drop range.stop
  before : o.text.take o.selection.start = t.take range.start ++ ('[' :: label ++ "](".toList)
  selected : o.selection.selected o.text = "url".toList
  after : o.text.drop o.selection.stop = ')' :: t.drop range.stop
  applied : o.applied = true

namespace Formatting

variable {t : Text} {s : Selection}

theorem isLinkWordChar_iff (c : Char) : isLinkWordChar c = true ↔ IsWordChar c := by
  have hRanges : isLinkWordChar c =
      (((decide ('A' ≤ c ∧ c ≤ 'Z') || decide ('a' ≤ c) && decide (c ≤ 'z')) ||
        decide ('0' ≤ c) && decide (c ≤ '9')) || c == '_' || c == '-') := rfl
  simp only [hRanges, IsWordChar, Bool.or_eq_true, Bool.and_eq_true, decide_eq_true_eq,
    beq_iff_eq, or_assoc]

theorem isWordAt_wordAt {n : Nat} (h : n ≤ t.length) : t.IsWordAt n (wordAt t n) := by
  obtain ⟨before, run, hTake, hRun, hWord, hStop⟩ := exists_runBefore isLinkWordChar t n
  obtain ⟨later, after, hDrop, hLater, hWord', hStop'⟩ := exists_runAfter isLinkWordChar t n
  have hLength : before.length + run.length = n := by
    rw [← List.length_append, ← hTake, List.length_take, Nat.min_eq_left h]
  obtain ⟨f, hf⟩ : ∃ f : Framed, f = ⟨before, run ++ later, after⟩ := ⟨_, rfl⟩
  have hText : f.text = t := by
    rw [hf, Framed.text, List.append_assoc, List.append_assoc, ← hDrop, ← List.append_assoc,
      ← hTake, List.take_append_drop]
  have hSelection : f.selection = wordAt t n := by
    simp only [hf, Framed.selection, wordAt, ← hLater, List.length_append, Selection.mk.injEq]
    omega
  have hAt : f.text.IsWordAt n f.selection := by
    subst hf
    apply Framed.isWordAt
    · intro c hc
      rcases List.mem_append.mp hc with hc | hc
      · exact (isLinkWordChar_iff c).mp (hWord c hc)
      · exact (isLinkWordChar_iff c).mp (hWord' c hc)
    · intro c hc hChar
      exact absurd ((isLinkWordChar_iff c).mpr hChar) (by rw [hStop c hc]; decide)
    · intro c hc hChar
      exact absurd ((isLinkWordChar_iff c).mpr hChar) (by rw [hStop' c hc]; decide)
    · exact Nat.le_trans (Nat.le_add_right _ _) (Nat.le_of_eq hLength)
    · rw [Framed.selection_stop, List.length_append, ← Nat.add_assoc, hLength]
      exact Nat.le_add_right _ _
  rwa [hText, hSelection] at hAt

theorem isLinkRange_linkRange (hStop : s.stop ≤ t.length) : t.IsLinkRange s (linkRange t s) where
  selection := by
    intro h
    have hCaret : s.isCaret = false := by
      rw [Selection.isCaret, beq_eq_false_iff_ne]
      exact h.ne
    rw [linkRange, hCaret]
    rfl
  word := by
    intro h
    have hCaret : s.isCaret = true := by
      rw [Selection.isCaret, beq_iff_eq]
      exact h
    rw [linkRange, if_pos hCaret]
    exact isWordAt_wordAt (h.trans_le hStop)

theorem linkLabel_eq (chosen : Text) :
    linkLabel chosen = if chosen = [] then "text".toList else chosen := by
  cases chosen <;> rfl

theorem insertsLink_insertLink (hOrder : s.start ≤ s.stop) (hStop : s.stop ≤ t.length) :
    (insertLink t s).InsertsLink t (linkRange t s) (linkLabel ((linkRange t s).selected t)) := by
  have hInside := Nat.le_trans (start_le_stop_linkRange t hOrder) (stop_linkRange_le t hOrder hStop)
  rw [insertLink_eq]
  generalize linkRange t s = range at hInside ⊢
  obtain ⟨label, hLabel⟩ : ∃ label, linkLabel (range.selected t) = label := ⟨_, rfl⟩
  have hInsert : ['['] ++ label ++ [']', '('] ++ addressPlaceholder ++ [')'] =
      '[' :: label ++ "](url)".toList := by
    simp [addressPlaceholder]
  rw [hLabel, hInsert]
  -- the address is what stands in the middle of the new text
  obtain ⟨f, hf⟩ : ∃ f : Framed, f = ⟨t.take range.start ++ ('[' :: label ++ "](".toList),
    "url".toList, ')' :: t.drop range.stop⟩ := ⟨_, rfl⟩
  have hText : Edit.apply ⟨range, '[' :: label ++ "](url)".toList⟩ t = f.text := by
    simp [hf, Edit.apply, Framed.text]
  have hSelection : (⟨range.start + label.length + 3,
      range.start + label.length + 3 + addressPlaceholder.length⟩ : Selection) = f.selection := by
    simp [hf, Framed.selection, addressPlaceholder, Nat.min_eq_left hInside]
    omega
  have hShows : (Outcome.added t ⟨range, '[' :: label ++ "](url)".toList⟩ f.selection).Shows f true :=
    ⟨hText, rfl, rfl⟩
  rw [hSelection]
  refine ⟨hLabel.symm.trans (linkLabel_eq _), rfl, rfl, ?_, ?_, ?_, rfl⟩
  · rw [hShows.take_start, hf]
  · rw [hShows.selected, hf]
  · rw [hShows.drop_stop, hf]

theorem apply_link_caret {n : Nat} (h : n ≤ t.length) :
    Command.link.apply t (.caret n) = insertLink t (.caret n) := by
  have hClamp : (Selection.caret n).clamp t = .caret n :=
    Selection.clamp_eq_self (Nat.le_refl n) h
  rw [← Command.apply_clamp, hClamp]
  change insertLink t ((Selection.caret n).clamp t) = _
  rw [hClamp]

theorem insertLink_congr {s' : Selection} (h : linkRange t s' = linkRange t s) :
    insertLink t s' = insertLink t s := by
  rw [insertLink_eq, insertLink_eq, h]

end Formatting

/-- A link takes the place of the selection or of the word at the caret, and all carets of one
word make the same link. -/
theorem Command.insertsLink_apply (t : Text) (raw : Selection) : ∃ range label,
    t.IsLinkRange (raw.clamp t) range ∧
    (Command.link.apply t raw).InsertsLink t range label ∧
    ((raw.clamp t).start = (raw.clamp t).stop → ∀ n, range.start ≤ n → n ≤ range.stop →
      Command.link.apply t (.caret n) = Command.link.apply t raw) := by
  have hOrder := raw.start_le_stop_clamp t
  have hStop := raw.stop_clamp_le t
  have hRange := Formatting.isLinkRange_linkRange hStop
  refine ⟨_, _, hRange, Formatting.insertsLink_insertLink hOrder hStop, ?_⟩
  intro hCaret n hStart hLe
  have hWord := hRange.word hCaret
  have hInside := Nat.le_trans hLe hWord.stop_le
  have hOther : t.IsLinkRange (.caret n) (Formatting.linkRange t (.caret n)) :=
    Formatting.isLinkRange_linkRange hInside
  rw [Formatting.apply_link_caret hInside]
  exact Formatting.insertLink_congr (hWord.unique (hOther.word rfl) hStart hLe)

example : (List.range 4).map (fun n => (Command.link.apply "é-a_".toList (.caret n)).text) =
    ["[text](url)é-a_".toList, "é[-a_](url)".toList, "é[-a_](url)".toList,
      "é[-a_](url)".toList] := by
  decide

end MarkdownEditor
