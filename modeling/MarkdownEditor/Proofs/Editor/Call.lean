import MarkdownEditor.Editor.Buffer

/-!
# Calls on a text buffer

Everything a host can ask of a buffer, as data, and what one call does. The two
ways to edit are one: a call either records an edit, and `edit?` is the content
after it, or leaves the content and its history as they are.
-/

namespace MarkdownEditor.TextBuffer

set_option autoImplicit false

inductive Call where
  | replaceRange (range : Selection) (insert : Text)
  | setContent (t : Text)
  | undo
  | redo
  | setSelection (s : Selection)
deriving DecidableEq, Repr

namespace Call

def perform : Call → TextBuffer → TextBuffer
  | .replaceRange range insert, b => b.replaceRange range insert
  | .setContent t, b => b.setContent t
  | .undo, b => b.undo.2
  | .redo, b => b.redo.2
  | .setSelection s, b => b.setSelection s

/-- The content after the call, if the call is an edit that a buffer with content `t`
records. -/
def edit? : Call → Text → Option Text
  | .replaceRange range insert, t =>
    if (range.clamp t).isCaret && insert.isEmpty then none
    else some (Edit.apply ⟨range.clamp t, insert⟩ t)
  | .setContent t', t => if t' = t then none else some t'
  | _, _ => none

end Call

variable (b : TextBuffer)

theorem replaceRange_eq (range : Selection) (insert : Text) :
    b.replaceRange range insert =
      ((Call.replaceRange range insert).edit? b.content).elim b b.step := by
  simp only [replaceRange, Call.edit?]
  split
  · rfl
  · rfl

theorem setContent_eq (t : Text) :
    b.setContent t = ((Call.setContent t).edit? b.content).elim b b.step := by
  simp only [setContent, Call.edit?]
  split
  · rfl
  · rfl

theorem undo_of_nil (h : b.undoStack = []) : b.undo = (false, b) := by
  rw [undo, h]

theorem undo_of_cons {t : Text} {rest : List Text} (h : b.undoStack = t :: rest) :
    b.undo = (true, { b with
      content := t, undoStack := rest, redoStack := b.content :: b.redoStack }) := by
  rw [undo, h]

theorem redo_of_nil (h : b.redoStack = []) : b.redo = (false, b) := by
  rw [redo, h]

theorem redo_of_cons {t : Text} {rest : List Text} (h : b.redoStack = t :: rest) :
    b.redo = (true, { b with
      content := t, undoStack := b.content :: b.undoStack, redoStack := rest }) := by
  rw [redo, h]

/-- All that a call can do to a buffer. -/
theorem perform_cases (c : Call) :
    c.perform b = b ∨ (∃ t, c.edit? b.content = some t ∧ c.perform b = b.step t) ∨
    (∃ t rest, b.undoStack = t :: rest ∧ c.perform b =
      { b with content := t, undoStack := rest, redoStack := b.content :: b.redoStack }) ∨
    (∃ t rest, b.redoStack = t :: rest ∧ c.perform b =
      { b with content := t, undoStack := b.content :: b.undoStack, redoStack := rest }) ∨
    ∃ s, c.perform b = b.setSelection s := by
  have hEdit : ∀ b' : TextBuffer, b' = (c.edit? b.content).elim b b.step →
      b' = b ∨ ∃ t, c.edit? b.content = some t ∧ b' = b.step t := by
    intro b' hb'
    cases h : c.edit? b.content with
    | none => exact .inl (by rw [hb', h]; rfl)
    | some t => exact .inr ⟨t, rfl, by rw [hb', h]; rfl⟩
  cases c with
  | replaceRange range insert =>
    exact (hEdit _ (b.replaceRange_eq range insert)).imp_right .inl
  | setContent t => exact (hEdit _ (b.setContent_eq t)).imp_right .inl
  | undo =>
    cases h : b.undoStack with
    | nil => exact .inl (by rw [Call.perform, b.undo_of_nil h])
    | cons t rest =>
      exact .inr (.inr (.inl ⟨t, rest, rfl, by rw [Call.perform, b.undo_of_cons h]⟩))
  | redo =>
    cases h : b.redoStack with
    | nil => exact .inl (by rw [Call.perform, b.redo_of_nil h])
    | cons t rest =>
      exact .inr (.inr (.inr (.inl ⟨t, rest, rfl, by rw [Call.perform, b.redo_of_cons h]⟩)))
  | setSelection s => exact .inr (.inr (.inr (.inr ⟨s, rfl⟩)))

/-- The history grows up to the limit, and stays as long as it is from there on. -/
theorem length_record (limit : Nat) (t : Text) (history : List Text) :
    (record limit t history).length =
      if history.length < limit then history.length + 1 else history.length := by
  unfold record
  split
  · next hOver =>
    rw [List.length_cons] at hOver
    rw [List.length_dropLast, List.length_cons, if_neg (by omega), Nat.add_sub_cancel]
  · next hFits =>
    rw [List.length_cons] at hFits ⊢
    rw [if_pos (by omega)]

/-- No call changes the limit. -/
theorem limit_perform (c : Call) : (c.perform b).limit = b.limit := by
  rcases b.perform_cases c with h | ⟨t, -, h⟩ | ⟨t, rest, -, h⟩ | ⟨t, rest, -, h⟩ | ⟨s, h⟩ <;>
    rw [h] <;> rfl

/-- A call adds at most one text to the undo history. -/
theorem undoCount_perform_le (c : Call) : (c.perform b).undoCount ≤ b.undoCount + 1 := by
  rcases b.perform_cases c with h | ⟨t, -, h⟩ | ⟨t, rest, hStack, h⟩ | ⟨t, rest, -, h⟩ | ⟨s, h⟩
  · rw [h]
    exact Nat.le_succ _
  · rw [h]
    change (record b.limit b.content b.undoStack).length ≤ b.undoStack.length + 1
    rw [length_record]
    split <;> omega
  · rw [h]
    change rest.length ≤ b.undoStack.length + 1
    rw [hStack, List.length_cons]
    omega
  · rw [h]
    exact Nat.le_refl _
  · rw [h]
    exact Nat.le_succ _

end MarkdownEditor.TextBuffer
