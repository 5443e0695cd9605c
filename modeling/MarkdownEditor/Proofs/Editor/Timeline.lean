import MarkdownEditor.Proofs.Editor.Call

/-!
# Walking through the edits

A recorded edit puts the text before it on top of the undo history, and what falls out
at the other end is older than the limit. So undo leads back through the texts of the
last edits one by one, as far as the limit reaches, whatever the history held before
them. Redo takes back an undo exactly, so it leads forth through the same texts.
-/

namespace MarkdownEditor.TextBuffer

set_option autoImplicit false

/-- The buffer after the calls. -/
def after (b : TextBuffer) (calls : List Call) : TextBuffer :=
  calls.foldl (fun b c => c.perform b) b

/-- Each of the calls is an edit that the buffer records when its turn comes. -/
def RecordsAll (b : TextBuffer) (calls : List Call) : Prop :=
  ∀ n (h : n < calls.length), (calls[n].edit? (b.after (calls.take n)).content).isSome

instance (b : TextBuffer) (calls : List Call) : Decidable (b.RecordsAll calls) :=
  inferInstanceAs (Decidable (∀ n (h : n < calls.length),
    (calls[n].edit? (b.after (calls.take n)).content).isSome))

/-- One call made `n` times in a row: its answers in their order, and the buffer at the end. -/
def times (b : TextBuffer) (call : TextBuffer → Bool × TextBuffer) : Nat → List Bool × TextBuffer
  | 0 => ([], b)
  | n + 1 => ((b.times call n).1 ++ [(call (b.times call n).2).1], (call (b.times call n).2).2)

/-- The texts that undo leads to, from the present one on. -/
def past (b : TextBuffer) : List Text := b.content :: b.undoStack

variable {b : TextBuffer} {calls : List Call} {c : Call}

theorem perform_of_edit? {t : Text} (h : c.edit? b.content = some t) : c.perform b = b.step t := by
  cases c with
  | replaceRange range insert =>
    change b.replaceRange range insert = b.step t
    rw [b.replaceRange_eq, h]
    rfl
  | setContent t' =>
    change b.setContent t' = b.step t
    rw [b.setContent_eq, h]
    rfl
  | undo => cases h
  | redo => cases h
  | setSelection s => cases h

/-- What falls out of the history is beyond the limit. -/
theorem getElem?_record {limit i : Nat} (h : i < limit) (t : Text) (history : List Text) :
    (record limit t history)[i]? = (t :: history)[i]? := by
  unfold record
  split
  · next hOver =>
    rw [List.getElem?_dropLast, if_pos (by omega)]
  · rfl

theorem getElem?_past_step {i : Nat} (h : i < b.limit) (t : Text) :
    (b.step t).past[i + 1]? = b.past[i]? :=
  getElem?_record h b.content b.undoStack

theorem after_take_succ {n : Nat} (h : n < calls.length) :
    b.after (calls.take (n + 1)) = calls[n].perform (b.after (calls.take n)) := by
  rw [← List.take_append_getElem h, after, List.foldl_append]
  rfl

theorem limit_after (b : TextBuffer) (calls : List Call) : (b.after calls).limit = b.limit := by
  induction calls generalizing b with
  | nil => rfl
  | cons c calls ih => exact (ih (c.perform b)).trans (b.limit_perform c)

/-- Where `i` undo calls lead after `n` edits. -/
theorem getElem?_past_after (hEdits : b.RecordsAll calls) {n i : Nat} (hn : n ≤ calls.length)
    (hi : i ≤ min n b.limit) :
    (b.after (calls.take n)).past[i]? = some (b.after (calls.take (n - i))).content := by
  induction n generalizing i with
  | zero =>
    obtain rfl : i = 0 := by omega
    rfl
  | succ n ih =>
    cases i with
    | zero => rfl
    | succ i =>
      obtain ⟨t, ht⟩ := Option.isSome_iff_exists.mp (hEdits n hn)
      -- the edit moved every text one place back, and none within the limit fell out
      have hLimit : i < (b.after (calls.take n)).limit := by
        rw [limit_after]
        omega
      rw [after_take_succ hn, perform_of_edit? ht, getElem?_past_step hLimit,
        ih (Nat.le_of_succ_le hn) (by omega), Nat.succ_sub_succ]

/-- Undo can go on as long as there is a past, and each time drops the present from it. -/
theorem times_undo {m : Nat} (h : m < b.past.length) :
    (b.times undo m).1 = List.replicate m true ∧ (b.times undo m).2.past = b.past.drop m := by
  induction m with
  | zero => exact ⟨rfl, rfl⟩
  | succ m ih =>
    obtain ⟨hAnswers, hPast⟩ := ih (Nat.lt_of_succ_lt h)
    have hStack : (b.times undo m).2.undoStack = b.past.drop (m + 1) := by
      rw [← List.tail_drop, ← hPast]
      rfl
    rw [List.drop_eq_getElem_cons h] at hStack
    have hUndo := undo_of_cons _ hStack
    constructor
    · rw [times, hUndo, hAnswers, List.replicate_succ']
    · rw [times, hUndo, List.drop_eq_getElem_cons h]
      rfl

theorem redo_undo (h : b.undo.1 = true) : b.undo.2.redo = (true, b) := by
  cases hStack : b.undoStack with
  | nil =>
    rw [b.undo_of_nil hStack] at h
    cases h
  | cons t rest =>
    rw [b.undo_of_cons hStack, redo_of_cons _ rfl, ← hStack]

/-- Redo takes back the undo calls before it, the last one first. -/
theorem times_redo_times_undo {m j : Nat} (h : m < b.past.length) (hj : j ≤ m) :
    (b.times undo m).2.times redo j = (List.replicate j true, (b.times undo (m - j)).2) := by
  induction j with
  | zero => rfl
  | succ j ih =>
    -- `j` redo calls lead to where `k + 1` undo calls led, and the next one takes back the last
    obtain ⟨k, hk⟩ : ∃ k, m - j = k + 1 := ⟨m - j - 1, by omega⟩
    have hAnswers : (b.times undo (k + 1)).1 = List.replicate (k + 1) true :=
      (times_undo (by omega)).1
    rw [times, List.replicate_succ'] at hAnswers
    have hLast : (b.times undo k).2.undo.1 = true := by
      simpa using (List.append_inj' hAnswers rfl).2
    have hBack : (b.times undo (k + 1)).2.redo = (true, (b.times undo k).2) := redo_undo hLast
    rw [times, ih (by omega), hk, hBack, List.replicate_succ', show m - (j + 1) = k by omega]

/-- Nothing is left to redo after an edit. -/
theorem redo_perform_of_edit? (h : (c.edit? b.content).isSome) :
    (c.perform b).redo = (false, c.perform b) := by
  obtain ⟨t, ht⟩ := Option.isSome_iff_exists.mp h
  rw [perform_of_edit? ht]
  exact redo_of_nil _ rfl

theorem selection_undo (b : TextBuffer) : b.undo.2.selection = b.selection := by
  cases h : b.undoStack with
  | nil => rw [b.undo_of_nil h]
  | cons t rest => rw [b.undo_of_cons h]

theorem selection_redo (b : TextBuffer) : b.redo.2.selection = b.selection := by
  cases h : b.redoStack with
  | nil => rw [b.redo_of_nil h]
  | cons t rest => rw [b.redo_of_cons h]

theorem selection_times {call : TextBuffer → Bool × TextBuffer}
    (h : ∀ b, (call b).2.selection = b.selection) (b : TextBuffer) (n : Nat) :
    (b.times call n).2.selection = b.selection := by
  induction n with
  | zero => rfl
  | succ n ih => exact (h _).trans ih

theorem selection_perform_of_edit? (h : (c.edit? b.content).isSome) :
    (c.perform b).selection = b.selection := by
  obtain ⟨t, ht⟩ := Option.isSome_iff_exists.mp h
  rw [perform_of_edit? ht]
  rfl

theorem selection_after (hEdits : b.RecordsAll calls) {n : Nat} (hn : n ≤ calls.length) :
    (b.after (calls.take n)).selection = b.selection := by
  induction n with
  | zero => rfl
  | succ n ih =>
    rw [after_take_succ hn, selection_perform_of_edit? (hEdits n hn)]
    exact ih (Nat.le_of_succ_le hn)

/-- The edits, and then undo `back` times. -/
def walkBack (b : TextBuffer) (calls : List Call) (back : Nat) : List Bool × TextBuffer :=
  (b.after calls).times undo back

/-- The same, and then redo `forth` times. -/
def walkForth (b : TextBuffer) (calls : List Call) (back forth : Nat) : List Bool × TextBuffer :=
  (b.walkBack calls back).2.times redo forth

/-- Undo and redo show the texts between the edits, and an edit at any point leaves nothing
to redo. The selection stays where it was through all of it. -/
structure Walks (b : TextBuffer) (calls : List Call) (back forth : Nat) : Prop where
  undo_answers : (b.walkBack calls back).1 = List.replicate back true
  undo_content : (b.walkBack calls back).2.content =
    (b.after (calls.take (calls.length - back))).content
  redo_answers : (b.walkForth calls back forth).1 = List.replicate forth true
  redo_content : (b.walkForth calls back forth).2.content =
    (b.after (calls.take (calls.length - back + forth))).content
  edit : ∀ (b' : TextBuffer) (c : Call), (c.edit? b'.content).isSome →
    (c.perform b').redo = (false, c.perform b') ∧ (c.perform b').selection = b'.selection
  edits_selection : ∀ n ≤ calls.length, (b.after (calls.take n)).selection = b.selection
  undo_selection : (b.walkBack calls back).2.selection = b.selection
  redo_selection : (b.walkForth calls back forth).2.selection = b.selection

theorem walkBack_eq (hEdits : b.RecordsAll calls) {back : Nat}
    (hBack : back ≤ min calls.length b.limit) :
    back < (b.after calls).past.length ∧
    (b.walkBack calls back).1 = List.replicate back true ∧
    (b.walkBack calls back).2.content =
      (b.after (calls.take (calls.length - back))).content := by
  have hText := getElem?_past_after hEdits (Nat.le_refl _) hBack
  rw [List.take_length] at hText
  obtain ⟨hReach, -⟩ := List.getElem?_eq_some_iff.mp hText
  obtain ⟨hAnswers, hPast⟩ := times_undo hReach
  refine ⟨hReach, hAnswers, ?_⟩
  have hHead : (b.walkBack calls back).2.past[0]? = (b.after calls).past[back]? := by
    rw [walkBack, hPast, List.getElem?_drop, Nat.add_zero]
  exact Option.some.inj (hHead.trans hText)

/-- After `n` recorded edits undo leads back to the texts before the last edits and redo
forth again. The buffer may have any history before the edits. -/
theorem walks_of_recordsAll (b : TextBuffer) (calls : List Call) (hEdits : b.RecordsAll calls)
    (back : Nat) (hBack : back ≤ min calls.length b.limit) (forth : Nat) (hForth : forth ≤ back) :
    Walks b calls back forth := by
  obtain ⟨hReach, hAnswers, hContent⟩ := walkBack_eq hEdits hBack
  have hRedo : b.walkForth calls back forth =
      (List.replicate forth true, (b.walkBack calls (back - forth)).2) :=
    times_redo_times_undo hReach hForth
  have hAfter : (b.after calls).selection = b.selection := by
    have hAll := selection_after hEdits (Nat.le_refl _)
    rwa [List.take_length] at hAll
  have hUndone : (b.walkBack calls back).2.selection = b.selection :=
    (selection_times selection_undo _ _).trans hAfter
  refine
    { undo_answers := hAnswers
      undo_content := hContent
      redo_answers := by rw [hRedo]
      redo_content := ?_
      edit := fun _ _ hEdit => ⟨redo_perform_of_edit? hEdit, selection_perform_of_edit? hEdit⟩
      edits_selection := fun _ hn => selection_after hEdits hn
      undo_selection := hUndone
      redo_selection := (selection_times selection_redo _ _).trans hUndone }
  have hLess : back - forth ≤ min calls.length b.limit := Nat.le_trans (Nat.sub_le _ _) hBack
  have hShorter := (walkBack_eq hEdits hLess).2.2
  rw [hRedo, show calls.length - back + forth = calls.length - (back - forth) by omega]
  exact hShorter

/-- A buffer with a full history and something to redo. -/
def writtenBuffer : TextBuffer := ⟨"å".toList, ⟨9, 2⟩, [['o'], ['p']], [['r']], 2⟩

/-- Three edits, one more than the limit of the buffer. -/
def threeEdits : List Call :=
  [.setContent "abc".toList, .replaceRange ⟨7, 1⟩ ['x'], .replaceRange ⟨1, 1⟩ ['\n']]

theorem walks_threeEdits :
    writtenBuffer.RecordsAll threeEdits ∧ 2 ≤ min threeEdits.length writtenBuffer.limit ∧
    1 ≤ 2 ∧ Walks writtenBuffer threeEdits 2 1 := by
  have hEdits : writtenBuffer.RecordsAll threeEdits := by decide
  have hBack : 2 ≤ min threeEdits.length writtenBuffer.limit := by decide
  have hForth : 1 ≤ 2 := by decide
  exact ⟨hEdits, hBack, hForth,
    walks_of_recordsAll writtenBuffer threeEdits hEdits 2 hBack 1 hForth⟩

end MarkdownEditor.TextBuffer
