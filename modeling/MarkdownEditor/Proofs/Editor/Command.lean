import MarkdownEditor.Editor.Session
import MarkdownEditor.Proofs.Editor.Call
import MarkdownEditor.Proofs.Formatting.Outcome

/-!
# Commands on a text buffer

A session lets the buffer compute the new text itself: it hands over the edit of
the outcome, and the buffer settles the range and leaves out an edit that does
nothing. Since the edit of an outcome lies in the text and always changes it, both
end up with the same text, and the buffer records exactly one step. The undo command
is no edit; all it does is what a session does after an edit of the host.
-/

namespace MarkdownEditor

set_option autoImplicit false

namespace TextBuffer

variable {b : TextBuffer} {c : Command}

theorem record_eq_take {limit : Nat} {history : List Text} (h : history.length ≤ limit)
    (t : Text) : record limit t history = (t :: history).take limit := by
  unfold record
  split
  · next hOver =>
    rw [List.length_cons] at hOver
    rw [List.dropLast_eq_take, List.length_cons, Nat.add_sub_cancel]
    congr 1
    omega
  · next hWithin => rw [List.take_of_length_le (Nat.le_of_not_lt hWithin)]

theorem replaceRange_of_isConsistent {o : Outcome} {s : Selection}
    (h : o.IsConsistent c b.content s) {e : Edit} (he : o.edit = some e) :
    b.replaceRange e.range e.insert = b.step o.text := by
  obtain ⟨hOrder, hStop, hText⟩ := h.edit e he
  have hClamp : e.range.clamp b.content = e.range := Selection.clamp_eq_self hOrder hStop
  -- an empty insert over an empty range would leave the text as it is
  have hEdits : ¬ (e.range.isCaret && e.insert.isEmpty) = true := by
    intro hIdle
    simp only [Selection.isCaret, Bool.and_eq_true, beq_iff_eq, List.isEmpty_iff] at hIdle
    obtain ⟨hCaret, hInsert⟩ := hIdle
    have hSame : o.text = b.content := by
      rw [← hText, hInsert, hCaret, List.append_nil, List.take_append_drop]
    rw [h.text_eq_iff.mp hSame] at he
    cases he
  simp only [replaceRange, hClamp]
  rw [if_neg hEdits]
  exact congrArg b.step hText

/-- After the answer `b'`, the buffer `b` holds what the outcome says, with one step more in
its history. -/
structure Takes (b : TextBuffer) (o : Outcome) (b' : TextBuffer) : Prop where
  content : b'.content = o.text
  selection : b'.selection = o.selection
  limit : b'.limit = b.limit
  undoStack : b'.undoStack = (b.content :: b.undoStack).take b.limit
  redoStack : b'.redoStack = []
  undo : b'.undo.1 = true ∧ b'.undo.2.content = b.content
  redo : b'.undo.2.redo.1 = true ∧ b'.undo.2.redo.2.content = o.text

theorem takes_step (hLimit : 1 ≤ b.limit) (hHistory : b.undoCount ≤ b.limit) (o : Outcome) :
    Takes b o ((b.step o.text).setSelection o.selection) := by
  have hUndo : record b.limit b.content b.undoStack = (b.content :: b.undoStack).take b.limit :=
    record_eq_take hHistory b.content
  obtain ⟨n, hn⟩ := Nat.exists_eq_add_of_le' hLimit
  have hHead : ((b.step o.text).setSelection o.selection).undoStack =
      b.content :: b.undoStack.take n := hUndo.trans (by rw [hn, List.take_succ_cons])
  have hBack := undo_of_cons _ hHead
  exact
    { content := rfl
      selection := rfl
      limit := rfl
      undoStack := hUndo
      redoStack := rfl
      undo := by rw [hBack]; exact ⟨rfl, rfl⟩
      redo := by rw [hBack]; exact ⟨rfl, rfl⟩ }

theorem run_of_edit {e : Edit} (he : (c.apply b.content b.selection).edit = some e) :
    Session.run c b = (true, (b.replaceRange e.range e.insert).setSelection
      (c.apply b.content b.selection).selection) := by
  simp only [Session.run, TextHost.text, TextHost.selection, he]
  rfl

theorem run_undo (b : TextBuffer) :
    Session.run .undo b = (false, b.setSelection (b.selection.clamp b.content)) := rfl

theorem afterHostEdit_eq (b : TextBuffer) :
    Session.afterHostEdit b = b.setSelection (b.selection.clamp b.content) := by
  simp only [Session.afterHostEdit, TextHost.text, TextHost.selection]
  split
  · next hSettled => rw [hSettled]; rfl
  · rfl

/-- A session does to a buffer what the outcome of the command says, as one step that the
buffer can undo and redo. The undo command only settles the selection. No buffer is set up
with a limit under 1. -/
theorem run_takes (b : TextBuffer) (hLimit : 1 ≤ b.limit) (hHistory : b.undoCount ≤ b.limit)
    (c : Command) :
    (c ≠ .undo → (Session.run c b).1 = true ∧
      Takes b (c.apply b.content b.selection) (Session.run c b).2) ∧
    (c = .undo → (Session.run c b).1 = false ∧ (Session.run c b).2.content = b.content ∧
      (Session.run c b).2.undoStack = b.undoStack ∧
      (Session.run c b).2.redoStack = b.redoStack ∧
      (Session.run c b).2 = Session.afterHostEdit b) := by
  constructor
  · intro hCommand
    have hConsistent := c.isConsistent_apply b.content b.selection
    obtain ⟨e, he⟩ := Option.ne_none_iff_exists'.mp (mt hConsistent.edit_eq_none_iff.mp hCommand)
    rw [run_of_edit he, replaceRange_of_isConsistent hConsistent he]
    exact ⟨rfl, takes_step hLimit hHistory _⟩
  · rintro rfl
    rw [run_undo, afterHostEdit_eq]
    exact ⟨rfl, rfl, rfl, rfl, rfl⟩

/-- A full history of one text, something to redo, and a reversed selection past the end. -/
def sampleBuffer : TextBuffer := ⟨"**å**".toList, ⟨9, 2⟩, [['a']], [['b']], 1⟩

theorem run_takes_sampleBuffer :
    1 ≤ sampleBuffer.limit ∧ sampleBuffer.undoCount ≤ sampleBuffer.limit ∧
    (Command.bold ≠ .undo → (Session.run .bold sampleBuffer).1 = true ∧
      Takes sampleBuffer (Command.bold.apply sampleBuffer.content sampleBuffer.selection)
        (Session.run .bold sampleBuffer).2) ∧
    (Command.bold = .undo → (Session.run .bold sampleBuffer).1 = false ∧
      (Session.run .bold sampleBuffer).2.content = sampleBuffer.content ∧
      (Session.run .bold sampleBuffer).2.undoStack = sampleBuffer.undoStack ∧
      (Session.run .bold sampleBuffer).2.redoStack = sampleBuffer.redoStack ∧
      (Session.run .bold sampleBuffer).2 = Session.afterHostEdit sampleBuffer) := by
  have hLimit : 1 ≤ sampleBuffer.limit := by decide
  have hHistory : sampleBuffer.undoCount ≤ sampleBuffer.limit := by decide
  exact ⟨hLimit, hHistory, run_takes sampleBuffer hLimit hHistory .bold⟩

end TextBuffer

end MarkdownEditor
