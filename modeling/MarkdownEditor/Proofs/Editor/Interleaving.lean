import MarkdownEditor.Proofs.Editor.Command

/-!
# A session and its host taking turns

Between two events of a session the host may do anything to its buffer and leave the
selection reversed or past the end of the text. Each of the session's events settles the
selection again, or leaves the whole buffer alone, whatever it finds. So the selection
stays settled from such an event on until the host acts.
-/

namespace MarkdownEditor

set_option autoImplicit false

/-- The ends of the selection are in order and inside the text. -/
def TextBuffer.IsSettled (b : TextBuffer) : Prop :=
  b.selection.start ≤ b.selection.stop ∧ b.selection.stop ≤ b.content.length

namespace Session

/-- What can happen to a buffer that a session and a host share. -/
inductive Event where
  | key (event : KeyEvent)
  | run (c : Command)
  | afterHostEdit
  | host (call : TextBuffer.Call)
deriving DecidableEq, Repr

namespace Event

/-- The buffer after the event. -/
def perform (keymap : Keymap) : Event → TextBuffer → TextBuffer
  | .key event, b => (handleKey keymap event b).2
  | .run c, b => (Session.run c b).2
  | .afterHostEdit, b => Session.afterHostEdit b
  | .host call, b => call.perform b

def isHost : Event → Bool
  | .host _ => true
  | _ => false

/-- The session does something in this event. -/
def Acts (keymap : Keymap) : Event → Prop
  | .key event => ∃ c, keymap.resolve event = some c ∧ c ≠ .undo
  | e => e.isHost = false

end Event

/-- The buffer after the events. -/
def after (keymap : Keymap) (b : TextBuffer) (events : List Event) : TextBuffer :=
  events.foldl (fun b e => e.perform keymap b) b

/-- What the session's own events promise of the buffer they find. -/
structure IsSafe (keymap : Keymap) (b : TextBuffer) : Prop where
  applied_iff : ∀ event c, (handleKey keymap event b).1 = .applied c ↔
    keymap.resolve event = some c ∧ c ≠ .undo
  applied : ∀ event c, (handleKey keymap event b).1 = .applied c →
    (handleKey keymap event b).2 = (run c b).2 ∧ (handleKey keymap event b).2.IsSettled
  idle : ∀ event, (handleKey keymap event b).1 = .passThrough ∨
    (handleKey keymap event b).1 = .ignored → (handleKey keymap event b).2 = b
  run : ∀ c, (run c b).2.IsSettled
  hostEdit : (afterHostEdit b).IsSettled
  hostEdit_frame : ∃ s, afterHostEdit b = b.setSelection s
  hostEdit_twice : afterHostEdit (afterHostEdit b) = afterHostEdit b

variable {keymap : Keymap} {b : TextBuffer}

theorem handleKey_of_ne_undo {event : KeyEvent} {c : Command} (hKey : keymap.resolve event = some c)
    (hUndo : c ≠ .undo) (b : TextBuffer) :
    handleKey keymap event b = (.applied c, (run c b).2) := by
  unfold handleKey
  rw [hKey]
  cases c with
  | undo => exact absurd rfl hUndo
  | _ => rfl

/-- The three things that can become of a key event. -/
theorem handleKey_cases (keymap : Keymap) (event : KeyEvent) (b : TextBuffer) :
    (keymap.resolve event = some .undo ∧ handleKey keymap event b = (.passThrough, b)) ∨
    (∃ c, keymap.resolve event = some c ∧ c ≠ .undo ∧
      handleKey keymap event b = (.applied c, (run c b).2)) ∨
    (keymap.resolve event = none ∧ handleKey keymap event b = (.ignored, b)) := by
  cases hKey : keymap.resolve event with
  | none => exact .inr (.inr ⟨rfl, by rw [handleKey, hKey]⟩)
  | some c =>
    by_cases hUndo : c = .undo
    · subst hUndo
      exact .inl ⟨rfl, by rw [handleKey, hKey]⟩
    · exact .inr (.inl ⟨c, rfl, hUndo, handleKey_of_ne_undo hKey hUndo b⟩)

theorem handleKey_eq_applied_iff (event : KeyEvent) (c : Command) :
    (handleKey keymap event b).1 = .applied c ↔ keymap.resolve event = some c ∧ c ≠ .undo := by
  rcases handleKey_cases keymap event b with ⟨hKey, h⟩ | ⟨c', hKey, hUndo, h⟩ | ⟨hKey, h⟩
  · rw [h, hKey]
    constructor
    · nofun
    · rintro ⟨hc, hne⟩
      exact absurd (Option.some.inj hc).symm hne
  · rw [h, hKey]
    constructor
    · rintro ⟨⟩
      exact ⟨rfl, hUndo⟩
    · rintro ⟨hc, -⟩
      rw [Option.some.inj hc]
  · rw [h, hKey]
    constructor
    · nofun
    · rintro ⟨hc, -⟩
      cases hc

theorem handleKey_idle {event : KeyEvent} (hKey : (handleKey keymap event b).1 = .passThrough ∨
    (handleKey keymap event b).1 = .ignored) : (handleKey keymap event b).2 = b := by
  rcases handleKey_cases keymap event b with ⟨-, h⟩ | ⟨c, -, -, h⟩ | ⟨-, h⟩
  · rw [h]
  · rw [h] at hKey
    rcases hKey with hKey | hKey <;> cases hKey
  · rw [h]

theorem isSettled_setSelection_clamp (b : TextBuffer) :
    (b.setSelection (b.selection.clamp b.content)).IsSettled :=
  ⟨Selection.start_le_stop_clamp b.content b.selection,
    Selection.stop_clamp_le b.content b.selection⟩

/-- The selection of an outcome is settled in its text, which is what the buffer holds. -/
theorem isSettled_run (c : Command) (b : TextBuffer) : (run c b).2.IsSettled := by
  have hConsistent := c.isConsistent_apply b.content b.selection
  cases he : (c.apply b.content b.selection).edit with
  | none =>
    obtain rfl := hConsistent.edit_eq_none_iff.mp he
    rw [TextBuffer.run_undo]
    exact isSettled_setSelection_clamp b
  | some e =>
    rw [TextBuffer.run_of_edit he, TextBuffer.replaceRange_of_isConsistent hConsistent he]
    exact ⟨hConsistent.start_le_stop, hConsistent.stop_le⟩

theorem isSettled_afterHostEdit (b : TextBuffer) : (afterHostEdit b).IsSettled := by
  rw [TextBuffer.afterHostEdit_eq]
  exact isSettled_setSelection_clamp b

theorem afterHostEdit_of_isSettled (h : b.IsSettled) : afterHostEdit b = b := by
  rw [TextBuffer.afterHostEdit_eq, Selection.clamp_eq_self h.1 h.2]
  rfl

theorem isSafe (keymap : Keymap) (b : TextBuffer) : IsSafe keymap b where
  applied_iff := handleKey_eq_applied_iff
  applied event c h := by
    obtain ⟨hKey, hUndo⟩ := (handleKey_eq_applied_iff event c).mp h
    rw [handleKey_of_ne_undo hKey hUndo]
    exact ⟨rfl, isSettled_run c b⟩
  idle event h := handleKey_idle h
  run c := isSettled_run c b
  hostEdit := isSettled_afterHostEdit b
  hostEdit_frame := ⟨_, TextBuffer.afterHostEdit_eq b⟩
  hostEdit_twice := afterHostEdit_of_isSettled (isSettled_afterHostEdit b)

theorem isSettled_of_acts {e : Event} (h : e.Acts keymap) (b : TextBuffer) :
    (e.perform keymap b).IsSettled := by
  cases e with
  | key event =>
    obtain ⟨c, hKey, hUndo⟩ := h
    rw [Event.perform, handleKey_of_ne_undo hKey hUndo]
    exact isSettled_run c b
  | run c => exact isSettled_run c b
  | afterHostEdit => exact isSettled_afterHostEdit b
  | host call => cases h

/-- An event of the session keeps a settled selection settled. -/
theorem isSettled_perform {e : Event} (h : b.IsSettled) (hSession : e.isHost = false) :
    (e.perform keymap b).IsSettled := by
  cases e with
  | key event =>
    rw [Event.perform]
    rcases handleKey_cases keymap event b with ⟨-, hKey⟩ | ⟨c, -, -, hKey⟩ | ⟨-, hKey⟩
    · rw [hKey]
      exact h
    · rw [hKey]
      exact isSettled_run c b
    · rw [hKey]
      exact h
  | run c => exact isSettled_run c b
  | afterHostEdit => exact isSettled_afterHostEdit b
  | host call => cases hSession

theorem isSettled_after {events : List Event} (h : b.IsSettled)
    (hSession : ∀ e ∈ events, e.isHost = false) : (after keymap b events).IsSettled := by
  induction events generalizing b with
  | nil => exact h
  | cons e events ih =>
    refine ih (isSettled_perform h (hSession e List.mem_cons_self)) ?_
    intro e' he'
    exact hSession e' (List.mem_cons_of_mem e he')

/-- Whatever happened to a buffer before, the events of a session keep their promises, and
the selection stays settled from an event in which the session acts on until the host does. -/
theorem isSafe_after (keymap : Keymap) (b : TextBuffer) (events : List Event) :
    (∀ n ≤ events.length, IsSafe keymap (after keymap b (events.take n))) ∧
    ∀ before e later, events = before ++ e :: later → e.Acts keymap →
      (∀ e' ∈ later, e'.isHost = false) → (after keymap b events).IsSettled := by
  constructor
  · intro n _
    exact isSafe keymap _
  · rintro before e later rfl hActs hLater
    have hSplit : after keymap b (before ++ e :: later) =
        after keymap (e.perform keymap (after keymap b before)) later := List.foldl_append
    rw [hSplit]
    exact isSettled_after (isSettled_of_acts hActs _) hLater

end Session

end MarkdownEditor
