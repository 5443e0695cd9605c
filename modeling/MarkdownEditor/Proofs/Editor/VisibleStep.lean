import Mathlib.Data.List.Chain
import MarkdownEditor.Proofs.Editor.BoundedHistory
import MarkdownEditor.Proofs.Editor.Interleaving
import MarkdownEditor.Proofs.Editor.Timeline

/-!
# Steps that show

A buffer may be edited with a replacement that puts back what was there, and undo then
changes nothing that can be seen. A session never does that, and neither does setting the
content. So as long as a buffer is edited in these ways only, the texts that undo and redo
walk through are different from one to the next.
-/

namespace MarkdownEditor

set_option autoImplicit false

namespace TextBuffer

/-- All texts of the buffer in the order in which they came: what undo leads back to, the
present, and what redo leads forth to. -/
def timeline (b : TextBuffer) : List Text := b.undoStack.reverse ++ b.content :: b.redoStack

variable {b : TextBuffer} {t : Text} {rest : List Text}

/-- Seen from the present, no two neighbours are alike on either side. -/
theorem isChain_timeline_iff : b.timeline.IsChain (· ≠ ·) ↔
    b.past.IsChain (· ≠ ·) ∧ (b.content :: b.redoStack).IsChain (· ≠ ·) := by
  have hPast : b.undoStack.reverse ++ [b.content] = b.past.reverse := by
    rw [past, List.reverse_cons]
  have hFlip : (fun s t : Text => t ≠ s) = (· ≠ ·) := by
    funext s t
    exact propext ne_comm
  rw [timeline, List.isChain_split, hPast, List.isChain_reverse, hFlip]

theorem timeline_setSelection (b : TextBuffer) (s : Selection) :
    (b.setSelection s).timeline = b.timeline := rfl

/-- An edit cuts off what could be redone, and what falls out of the history is at its far
end. -/
theorem isChain_timeline_step (h : b.timeline.IsChain (· ≠ ·)) (ht : t ≠ b.content) :
    (b.step t).timeline.IsChain (· ≠ ·) := by
  obtain ⟨hPast, -⟩ := isChain_timeline_iff.mp h
  refine isChain_timeline_iff.mpr ⟨?_, .singleton t⟩
  change (t :: record b.limit b.content b.undoStack).IsChain (· ≠ ·)
  obtain ⟨forgotten, hPast'⟩ : record b.limit b.content b.undoStack <+: b.past :=
    record_prefix b.limit b.content (List.prefix_refl b.undoStack)
  rw [← hPast'] at hPast
  refine List.isChain_cons.mpr ⟨?_, hPast.left_of_append⟩
  intro t' ht'
  obtain ⟨rest, hRest⟩ := List.head?_eq_some_iff.mp ht'
  rw [hRest] at hPast'
  obtain rfl : t' = b.content := (List.cons.inj hPast').1
  exact ht

/-- Undo moves along the timeline. -/
theorem timeline_of_undoStack (h : b.undoStack = t :: rest) :
    timeline { b with content := t, undoStack := rest, redoStack := b.content :: b.redoStack } =
      b.timeline := by
  rw [timeline, timeline, h, List.reverse_cons, List.append_assoc]
  rfl

/-- Redo moves along it the other way. -/
theorem timeline_of_redoStack (h : b.redoStack = t :: rest) :
    timeline { b with content := t, undoStack := b.content :: b.undoStack, redoStack := rest } =
      b.timeline := by
  rw [timeline, timeline, h, List.reverse_cons, List.append_assoc]
  rfl

/-- Undo and redo change the text whenever they do anything. -/
structure StepsShow (b : TextBuffer) : Prop where
  distinct : b.timeline.IsChain (· ≠ ·)
  undo : b.undo.1 = true → b.undo.2.content ≠ b.content
  redo : b.redo.1 = true → b.redo.2.content ≠ b.content

theorem stepsShow_of_isChain (h : b.timeline.IsChain (· ≠ ·)) : b.StepsShow := by
  obtain ⟨hPast, hFuture⟩ := isChain_timeline_iff.mp h
  refine ⟨h, ?_, ?_⟩
  · intro hUndo
    cases hStack : b.undoStack with
    | nil =>
      rw [b.undo_of_nil hStack] at hUndo
      cases hUndo
    | cons t rest =>
      rw [past, hStack] at hPast
      rw [b.undo_of_cons hStack]
      exact (List.isChain_cons_cons.mp hPast).1.symm
  · intro hRedo
    cases hStack : b.redoStack with
    | nil =>
      rw [b.redo_of_nil hStack] at hRedo
      cases hRedo
    | cons t rest =>
      rw [hStack] at hFuture
      rw [b.redo_of_cons hStack]
      exact (List.isChain_cons_cons.mp hFuture).1.symm

end TextBuffer

namespace Session

variable {keymap : Keymap} {b : TextBuffer} {e : Event}

/-- The host replaces a range by itself. -/
def Event.isReplace : Event → Bool
  | .host (.replaceRange _ _) => true
  | _ => false

/-- A command changes the text in one step, or nothing but the selection. -/
theorem run_cases (c : Command) (b : TextBuffer) :
    (∃ s, (run c b).2 = b.setSelection s) ∨
    ∃ t s, t ≠ b.content ∧ (run c b).2 = (b.step t).setSelection s := by
  have hConsistent := c.isConsistent_apply b.content b.selection
  cases he : (c.apply b.content b.selection).edit with
  | none =>
    obtain rfl := hConsistent.edit_eq_none_iff.mp he
    exact .inl ⟨_, congrArg Prod.snd (TextBuffer.run_undo b)⟩
  | some e =>
    have hNew : (c.apply b.content b.selection).text ≠ b.content := by
      intro hSame
      rw [hConsistent.text_eq_iff.mp hSame] at he
      cases he
    rw [TextBuffer.run_of_edit he, TextBuffer.replaceRange_of_isConsistent hConsistent he]
    exact .inr ⟨_, _, hNew, rfl⟩

/-- All that an event can do to a buffer which the host does not replace parts of. -/
theorem Event.perform_cases (h : e.isReplace = false) (keymap : Keymap) (b : TextBuffer) :
    (∃ s, e.perform keymap b = b.setSelection s) ∨
    (∃ t s, t ≠ b.content ∧ e.perform keymap b = (b.step t).setSelection s) ∨
    (∃ t rest, b.undoStack = t :: rest ∧ e.perform keymap b =
      { b with content := t, undoStack := rest, redoStack := b.content :: b.redoStack }) ∨
    ∃ t rest, b.redoStack = t :: rest ∧ e.perform keymap b =
      { b with content := t, undoStack := b.content :: b.undoStack, redoStack := rest } := by
  cases e with
  | key event =>
    rw [Event.perform]
    rcases handleKey_cases keymap event b with ⟨-, hKey⟩ | ⟨c, -, -, hKey⟩ | ⟨-, hKey⟩
    · exact .inl ⟨b.selection, congrArg Prod.snd hKey⟩
    · rw [hKey]
      exact (run_cases c b).imp_right .inl
    · exact .inl ⟨b.selection, congrArg Prod.snd hKey⟩
  | run c => exact (run_cases c b).imp_right .inl
  | afterHostEdit => exact .inl ⟨_, TextBuffer.afterHostEdit_eq b⟩
  | host call =>
    rcases b.perform_cases call with hCall | ⟨t, hEdit, hCall⟩ | hCall | hCall | ⟨s, hCall⟩
    · exact .inl ⟨b.selection, hCall⟩
    · refine .inr (.inl ⟨t, b.selection, ?_, hCall⟩)
      -- the edit sets the content, and only to another text
      cases call with
      | replaceRange range insert => cases h
      | setContent t' =>
        simp only [TextBuffer.Call.edit?] at hEdit
        split at hEdit
        · cases hEdit
        · next hNe => exact Option.some.inj hEdit ▸ hNe
      | undo => cases hEdit
      | redo => cases hEdit
      | setSelection s => cases hEdit
    · exact .inr (.inr (.inl hCall))
    · exact .inr (.inr (.inr hCall))
    · exact .inl ⟨s, hCall⟩

/-- What one event preserves. -/
theorem isChain_timeline_perform (keymap : Keymap) (h : b.timeline.IsChain (· ≠ ·))
    (he : e.isReplace = false) :
    (e.perform keymap b).timeline.IsChain (· ≠ ·) := by
  rcases Event.perform_cases he keymap b with ⟨s, hEvent⟩ | ⟨t, s, ht, hEvent⟩ |
    ⟨t, rest, hStack, hEvent⟩ | ⟨t, rest, hStack, hEvent⟩
  · rw [hEvent, TextBuffer.timeline_setSelection]
    exact h
  · rw [hEvent, TextBuffer.timeline_setSelection]
    exact TextBuffer.isChain_timeline_step h ht
  · rw [hEvent, TextBuffer.timeline_of_undoStack hStack]
    exact h
  · rw [hEvent, TextBuffer.timeline_of_redoStack hStack]
    exact h

/-- What events in a row preserve. -/
theorem isChain_timeline_after {events : List Event} (h : b.timeline.IsChain (· ≠ ·))
    (hEvents : ∀ e ∈ events, e.isReplace = false) :
    (after keymap b events).timeline.IsChain (· ≠ ·) := by
  induction events generalizing b with
  | nil => exact h
  | cons e events ih =>
    have hStep := isChain_timeline_perform keymap h (hEvents e List.mem_cons_self)
    exact ih hStep fun e' he' => hEvents e' (List.mem_cons_of_mem e he')

/-- Whatever a session and a host do to a new buffer, as long as the host edits it only by
setting the content, every step of undo and redo shows. -/
theorem stepsShow_after (keymap : Keymap) (t : Text) (limit : Nat) (events : List Event)
    (h : ∀ e ∈ events, e.isReplace = false) :
    (after keymap ((TextBuffer.ofText t).withUndoLimit limit) events).StepsShow := by
  apply TextBuffer.stepsShow_of_isChain
  apply isChain_timeline_after _ h
  exact .singleton t

/-- Steps that are forgotten, undone and redone, and contents that are set to themselves. -/
def mixedEvents : List Event :=
  [.run .bold, .host (.setContent "****".toList), .key ⟨'8', true, false, true, false⟩,
    .host (.setSelection ⟨9, 3⟩), .run .undo, .host (.setContent "é".toList), .host .undo,
    .host .undo, .afterHostEdit, .host .redo]

theorem stepsShow_after_mixedEvents :
    (∀ e ∈ mixedEvents, e.isReplace = false) ∧
    (after ⟨.ctrl⟩ ((TextBuffer.ofText []).withUndoLimit 2) mixedEvents).timeline =
      ["****".toList, "- ****".toList, "é".toList] ∧
    (after ⟨.ctrl⟩ ((TextBuffer.ofText []).withUndoLimit 2) mixedEvents).StepsShow := by
  have hEvents : ∀ e ∈ mixedEvents, e.isReplace = false := by decide
  refine ⟨hEvents, ?_, stepsShow_after ⟨.ctrl⟩ [] 2 mixedEvents hEvents⟩
  decide

end Session

end MarkdownEditor
