import MarkdownEditor.Proofs.Editor.BoundedHistory
import MarkdownEditor.Proofs.Editor.Timeline

/-!
# A limit that changes

A limit can be set on a buffer that has a history already. An edit drops one text of the
history at most, so a history that is too long for its limit keeps its length with every
edit. The limit holds from then on exactly if everything that can be undone and redone fits
into it when it is set. What holds in any case is the largest limit that there was so far.
-/

namespace MarkdownEditor.TextBuffer

set_option autoImplicit false

/-- The number of texts that undo and redo lead to. -/
def historySize (b : TextBuffer) : Nat := b.undoStack.length + b.redoStack.length

inductive Action where
  | call (c : Call)
  | setLimit (limit : Nat)
deriving DecidableEq, Repr

def Action.perform : Action → TextBuffer → TextBuffer
  | .call c, b => c.perform b
  | .setLimit limit, b => b.withUndoLimit limit

def performAll (b : TextBuffer) (actions : List Action) : TextBuffer :=
  actions.foldl (fun b a => a.perform b) b

/-- A new buffer with the text `t`, after the actions. -/
def ofActions (t : Text) (actions : List Action) : TextBuffer := (ofText t).performAll actions

/-- Whatever is called, no edit leaves more to undo than the limit allows. -/
def KeepsLimit (b : TextBuffer) : Prop :=
  ∀ (calls : List Call) (c : Call), (c.edit? (b.after calls).content).isSome →
    (c.perform (b.after calls)).undoCount ≤ b.limit

variable {b : TextBuffer} {c : Call}

theorem undoCount_perform_of_edit? (h : (c.edit? b.content).isSome) :
    (c.perform b).undoCount =
      if b.undoCount < b.limit then b.undoCount + 1 else b.undoCount := by
  obtain ⟨t, ht⟩ := Option.isSome_iff_exists.mp h
  rw [perform_of_edit? ht]
  exact length_record b.limit b.content b.undoStack

/-- Only an edit adds to the history, and only as far as the limit. -/
theorem historySize_perform_le (b : TextBuffer) (c : Call) :
    (c.perform b).historySize ≤ max b.historySize b.limit := by
  rcases b.perform_cases c with h | ⟨t, -, h⟩ | ⟨t, rest, hStack, h⟩ | ⟨t, rest, hStack, h⟩ | ⟨s, h⟩
  · rw [h]
    exact Nat.le_max_left _ _
  · rw [h]
    have hLength := length_record b.limit b.content b.undoStack
    change (record b.limit b.content b.undoStack).length + 0 ≤ _
    rw [historySize]
    split at hLength <;> omega
  · rw [h]
    simp only [historySize, hStack, List.length_cons]
    omega
  · rw [h]
    simp only [historySize, hStack, List.length_cons]
    omega
  · rw [h]
    exact Nat.le_max_left _ _

theorem Action.historySize_perform_le (a : Action) (b : TextBuffer) :
    (a.perform b).historySize ≤ max b.historySize (a.perform b).limit := by
  cases a with
  | call c =>
    have hStep := b.historySize_perform_le c
    rwa [← b.limit_perform c] at hStep
  | setLimit limit => exact Nat.le_max_left _ _

theorem historySize_performAll_le {actions : List Action} {bound : Nat}
    (hStart : b.historySize ≤ bound)
    (hLimits : ∀ n ≤ actions.length, (b.performAll (actions.take n)).limit ≤ bound) :
    (b.performAll actions).historySize ≤ bound := by
  induction actions generalizing b with
  | nil => exact hStart
  | cons a actions ih =>
    have hLimit : (a.perform b).limit ≤ bound := hLimits 1 (Nat.le_add_left _ _)
    have hStep : (a.perform b).historySize ≤ bound :=
      Nat.le_trans (a.historySize_perform_le b) (Nat.max_le.mpr ⟨hStart, hLimit⟩)
    exact ih hStep fun n hn => hLimits (n + 1) (Nat.succ_le_succ hn)

theorem performAll_map_call (b : TextBuffer) (calls : List Call) :
    b.performAll (calls.map .call) = b.after calls :=
  List.foldl_map

/-- As long as the limit stays, a history that fits goes on to fit. -/
theorem historySize_after_le (h : b.historySize ≤ b.limit) (calls : List Call) :
    (b.after calls).historySize ≤ b.limit := by
  rw [← performAll_map_call]
  apply historySize_performAll_le h
  intro n _
  have hLimit : (b.performAll ((calls.map .call).take n)).limit = b.limit := by
    rw [← List.map_take, performAll_map_call, limit_after]
  exact Nat.le_of_eq hLimit

/-- When everything is redone, the whole history is there to be undone. -/
theorem undoCount_after_redo (b : TextBuffer) :
    (b.after (List.replicate b.redoStack.length .redo)).undoCount = b.historySize := by
  induction hStack : b.redoStack generalizing b with
  | nil =>
    rw [historySize, hStack]
    rfl
  | cons t rest ih =>
    have hRedo : Call.redo.perform b =
        { b with content := t, undoStack := b.content :: b.undoStack, redoStack := rest } := by
      rw [Call.perform, b.redo_of_cons hStack]
    have hRest := ih (Call.redo.perform b) (by rw [hRedo])
    rw [List.length_cons, List.replicate_succ]
    refine hRest.trans ?_
    rw [hRedo]
    simp only [historySize, hStack, List.length_cons]
    omega

theorem keepsLimit_iff (b : TextBuffer) : b.KeepsLimit ↔ b.historySize ≤ b.limit := by
  constructor
  · intro h
    -- redo everything and make one more edit
    let calls := List.replicate b.redoStack.length Call.redo
    have hEdit : ((Call.setContent ('x' :: (b.after calls).content)).edit?
        (b.after calls).content).isSome := by
      simp [Call.edit?]
    have hCount := undoCount_perform_of_edit? hEdit
    have hLimit := h calls _ hEdit
    have hAll : (b.after calls).undoCount = b.historySize := undoCount_after_redo b
    split at hCount <;> omega
  · intro h calls c _
    have hBefore := historySize_after_le h calls
    have hStep := (b.after calls).historySize_perform_le c
    rw [limit_after] at hStep
    have hUndo : (c.perform (b.after calls)).undoCount ≤ (c.perform (b.after calls)).historySize :=
      Nat.le_add_right _ _
    omega

/-- How far a limit reaches that may change on the way: the history grows up to the limit in
force and does not shrink when it is above it, so a limit that is set now is kept from now on
exactly if the history fits into it, and the largest limit so far is kept in any case. -/
structure LimitsHistory (t : Text) (actions : List Action) : Prop where
  edit : ∀ c : Call, (c.edit? (ofActions t actions).content).isSome →
    (c.perform (ofActions t actions)).undoCount =
      if (ofActions t actions).undoCount < (ofActions t actions).limit then
        (ofActions t actions).undoCount + 1
      else (ofActions t actions).undoCount
  setLimit : ∀ limit, ((ofActions t actions).withUndoLimit limit).KeepsLimit ↔
    (ofActions t actions).historySize ≤ max limit 1
  largest : ∀ bound, (∀ n ≤ actions.length, (ofActions t (actions.take n)).limit ≤ bound) →
    (ofActions t actions).historySize ≤ bound

theorem limitsHistory (t : Text) (actions : List Action) : LimitsHistory t actions where
  edit := fun _ h => undoCount_perform_of_edit? h
  setLimit := fun _ => keepsLimit_iff _
  largest := fun _ hLimits => historySize_performAll_le (Nat.zero_le _) hLimits

/-- Three edits, and then a limit of one. -/
def lateLimit : List Action :=
  [.call (.setContent ['a']), .call (.setContent ['b']), .call (.setContent ['c']), .setLimit 1]

/-- The limit in force is not kept by every edit: after a fourth one three texts can still be
undone. -/
theorem exceedsLimit_lateLimit : ¬ ∀ (t : Text) (actions : List Action) (c : Call),
    (c.edit? (ofActions t actions).content).isSome →
    (c.perform (ofActions t actions)).undoCount ≤ (ofActions t actions).limit := by
  intro h
  have hLimit := h [] lateLimit (.setContent ['d']) (by decide)
  exact absurd hLimit (by decide)

end MarkdownEditor.TextBuffer
