import MarkdownEditor.Proofs.Editor.Call

/-!
# A bounded history against an unbounded one

Two buffers take the same calls, one with a limit on its history and one whose
limit is out of reach. Where the bounded one has nothing left to undo, the other
one is not asked either. Then they differ in one thing only: the bounded one has
forgotten the oldest texts. The limit holds for both stacks together, so redo,
which does not look at it, cannot break it.
-/

namespace MarkdownEditor.TextBuffer

set_option autoImplicit false

/-- The bounded buffer and its companion after one more call. -/
def follow (pair : TextBuffer × TextBuffer) (c : Call) : TextBuffer × TextBuffer :=
  if c = .undo ∧ pair.1.undo.1 = false then (c.perform pair.1, pair.2)
  else (c.perform pair.1, c.perform pair.2)

/-- Two new buffers with the text `t`. -/
def newPair (limit beyond : Nat) (t : Text) : TextBuffer × TextBuffer :=
  ((ofText t).withUndoLimit limit, (ofText t).withUndoLimit beyond)

/-- The two buffers after the calls. -/
def followAll (limit beyond : Nat) (t : Text) (calls : List Call) : TextBuffer × TextBuffer :=
  calls.foldl follow (newPair limit beyond t)

/-- `b` is `u` without the oldest of its history, which has at most `limit` texts. -/
structure IsTrimmed (limit : Nat) (b u : TextBuffer) : Prop where
  content : b.content = u.content
  selection : b.selection = u.selection
  redoStack : b.redoStack = u.redoStack
  undoStack : b.undoStack <+: u.undoStack
  bounded : b.undoStack.length + b.redoStack.length ≤ limit

theorem record_of_lt {limit : Nat} {history : List Text} (h : history.length < limit) (t : Text) :
    record limit t history = t :: history := by
  unfold record
  rw [if_neg]
  rw [List.length_cons]
  omega

theorem record_prefix (limit : Nat) (t : Text) {short long : List Text} (h : short <+: long) :
    record limit t short <+: t :: long := by
  have hCons : t :: short <+: t :: long := List.cons_prefix_cons.mpr ⟨rfl, h⟩
  unfold record
  split
  · exact (List.dropLast_prefix _).trans hCons
  · exact hCons

theorem length_record_le_limit {limit : Nat} (t : Text) {history : List Text}
    (h : history.length ≤ limit) : (record limit t history).length ≤ limit := by
  rw [length_record]
  split <;> omega

namespace IsTrimmed

variable {b u : TextBuffer}

/-- An edit keeps the buffers alike as long as the companion forgets nothing. -/
theorem step (h : IsTrimmed b.limit b u) (hBeyond : u.undoCount < u.limit) (t : Text) :
    IsTrimmed b.limit (b.step t) (u.step t) where
  content := rfl
  selection := h.selection
  redoStack := rfl
  undoStack := by
    change record b.limit b.content b.undoStack <+: record u.limit u.content u.undoStack
    rw [record_of_lt hBeyond, h.content]
    exact record_prefix b.limit u.content h.undoStack
  bounded := by
    have hUndo : b.undoStack.length ≤ b.limit := Nat.le_trans (Nat.le_add_right _ _) h.bounded
    exact length_record_le_limit b.content hUndo

theorem edit (h : IsTrimmed b.limit b u) (hBeyond : u.undoCount < u.limit) (o : Option Text) :
    IsTrimmed b.limit (o.elim b b.step) (o.elim u u.step) := by
  cases o with
  | none => exact h
  | some t => exact h.step hBeyond t

theorem undo (h : IsTrimmed b.limit b u) (hUndo : b.undo.1 = true) :
    IsTrimmed b.limit b.undo.2 u.undo.2 := by
  cases hStack : b.undoStack with
  | nil =>
    rw [b.undo_of_nil hStack] at hUndo
    cases hUndo
  | cons t rest =>
    have hPrefix := h.undoStack
    rw [hStack] at hPrefix
    obtain ⟨more, hMore⟩ := hPrefix
    rw [b.undo_of_cons hStack, u.undo_of_cons hMore.symm]
    refine ⟨rfl, h.selection, ?_, List.prefix_append rest more, ?_⟩
    · change b.content :: b.redoStack = u.content :: u.redoStack
      rw [h.content, h.redoStack]
    · have hBounded := h.bounded
      rw [hStack, List.length_cons] at hBounded
      change rest.length + (b.content :: b.redoStack).length ≤ b.limit
      rw [List.length_cons]
      omega

theorem redo (h : IsTrimmed b.limit b u) : IsTrimmed b.limit b.redo.2 u.redo.2 := by
  cases hStack : b.redoStack with
  | nil =>
    rw [b.redo_of_nil hStack, u.redo_of_nil (h.redoStack ▸ hStack)]
    exact h
  | cons t rest =>
    rw [b.redo_of_cons hStack, u.redo_of_cons (h.redoStack ▸ hStack)]
    refine ⟨rfl, h.selection, rfl, ?_, ?_⟩
    · rw [h.content]
      exact List.cons_prefix_cons.mpr ⟨rfl, h.undoStack⟩
    · have hBounded := h.bounded
      rw [hStack, List.length_cons] at hBounded
      change (b.content :: b.undoStack).length + rest.length ≤ b.limit
      rw [List.length_cons]
      omega

theorem redo_answer {limit : Nat} (h : IsTrimmed limit b u) : b.redo.1 = u.redo.1 := by
  cases hStack : b.redoStack with
  | nil => rw [b.redo_of_nil hStack, u.redo_of_nil (h.redoStack ▸ hStack)]
  | cons t rest => rw [b.redo_of_cons hStack, u.redo_of_cons (h.redoStack ▸ hStack)]

end IsTrimmed

variable {b u : TextBuffer}

theorem undo_of_fst_eq_false (h : b.undo.1 = false) : b.undo.2 = b := by
  cases hStack : b.undoStack with
  | nil => rw [b.undo_of_nil hStack]
  | cons t rest =>
    rw [b.undo_of_cons hStack] at h
    cases h

/-- What one call preserves. -/
theorem IsTrimmed.follow (h : IsTrimmed b.limit b u) (hBeyond : u.undoCount < u.limit)
    (c : Call) : IsTrimmed b.limit (follow (b, u) c).1 (follow (b, u) c).2 := by
  unfold TextBuffer.follow
  split
  · next hSkip =>
    obtain ⟨rfl, hUndo⟩ := hSkip
    change IsTrimmed b.limit b.undo.2 u
    rwa [undo_of_fst_eq_false hUndo]
  · next hBoth =>
    cases c with
    | replaceRange range insert =>
      change IsTrimmed b.limit (b.replaceRange range insert) (u.replaceRange range insert)
      rw [b.replaceRange_eq, u.replaceRange_eq, h.content]
      exact h.edit hBeyond _
    | setContent t =>
      change IsTrimmed b.limit (b.setContent t) (u.setContent t)
      rw [b.setContent_eq, u.setContent_eq, h.content]
      exact h.edit hBeyond _
    | undo => exact h.undo (eq_true_of_ne_false fun hUndo => hBoth ⟨rfl, hUndo⟩)
    | redo => exact h.redo
    | setSelection s => exact ⟨h.content, rfl, h.redoStack, h.undoStack, h.bounded⟩

theorem limit_follow (pair : TextBuffer × TextBuffer) (c : Call) :
    (follow pair c).1.limit = pair.1.limit ∧ (follow pair c).2.limit = pair.2.limit := by
  unfold follow
  split
  · exact ⟨pair.1.limit_perform c, rfl⟩
  · exact ⟨pair.1.limit_perform c, pair.2.limit_perform c⟩

/-- What a run of calls preserves, as long as the companion's limit is not reached. -/
theorem IsTrimmed.foldl_follow (calls : List Call) (pair : TextBuffer × TextBuffer)
    (h : IsTrimmed pair.1.limit pair.1 pair.2)
    (hBeyond : ∀ n ≤ calls.length, ((calls.take n).foldl TextBuffer.follow pair).2.undoCount <
      pair.2.limit) :
    IsTrimmed pair.1.limit (calls.foldl TextBuffer.follow pair).1
      (calls.foldl TextBuffer.follow pair).2 := by
  induction calls generalizing pair with
  | nil => exact h
  | cons c calls ih =>
    have hNow : pair.2.undoCount < pair.2.limit := hBeyond 0 (Nat.zero_le _)
    obtain ⟨hFirst, hSecond⟩ := limit_follow pair c
    have hStep := h.follow hNow c
    rw [← hFirst] at hStep ⊢
    refine ih (TextBuffer.follow pair c) hStep ?_
    intro n hn
    rw [hSecond]
    exact hBeyond (n + 1) (Nat.succ_le_succ hn)

theorem undoCount_follow_le (pair : TextBuffer × TextBuffer) (c : Call) :
    (follow pair c).2.undoCount ≤ pair.2.undoCount + 1 := by
  unfold follow
  split
  · exact Nat.le_succ _
  · exact pair.2.undoCount_perform_le c

/-- A limit above the number of calls is out of reach. -/
theorem undoCount_followAll_le (limit beyond : Nat) (t : Text) (calls : List Call) :
    (followAll limit beyond t calls).2.undoCount ≤ calls.length := by
  have hRun : ∀ (calls : List Call) (pair : TextBuffer × TextBuffer),
      (calls.foldl follow pair).2.undoCount ≤ pair.2.undoCount + calls.length := by
    intro calls
    induction calls with
    | nil => exact fun pair => Nat.le_refl _
    | cons c calls ih =>
      intro pair
      have hRest := ih (follow pair c)
      have hStep := undoCount_follow_le pair c
      rw [List.foldl_cons, List.length_cons]
      omega
  have h := hRun calls (newPair limit beyond t)
  rwa [show (newPair limit beyond t).2.undoCount = 0 from rfl, Nat.zero_add] at h

/-- After every call the bounded buffer is its companion without the oldest of its
history, and both answer a redo alike. -/
theorem isTrimmed_followAll {limit beyond : Nat} (hLimit : 1 ≤ limit) (t : Text)
    (calls : List Call)
    (hBeyond : ∀ n ≤ calls.length,
      (followAll limit beyond t (calls.take n)).2.undoCount < beyond) :
    ∀ n ≤ calls.length,
      IsTrimmed limit (followAll limit beyond t (calls.take n)).1
        (followAll limit beyond t (calls.take n)).2 ∧
      (followAll limit beyond t (calls.take n)).1.redo.1 =
        (followAll limit beyond t (calls.take n)).2.redo.1 := by
  intro n hn
  have hPos : 0 < beyond := Nat.zero_lt_of_lt (hBeyond 0 (Nat.zero_le _))
  have hFirst : (newPair limit beyond t).1.limit = limit := Nat.max_eq_left hLimit
  have hSecond : (newPair limit beyond t).2.limit = beyond := Nat.max_eq_left hPos
  have hStart : IsTrimmed (newPair limit beyond t).1.limit (newPair limit beyond t).1
      (newPair limit beyond t).2 :=
    ⟨rfl, rfl, rfl, List.prefix_refl _, Nat.zero_le _⟩
  have hRun := IsTrimmed.foldl_follow (calls.take n) (newPair limit beyond t) hStart (by
    intro k hk
    rw [List.length_take] at hk
    rw [hSecond, List.take_take]
    exact hBeyond (min k n) (by omega))
  rw [hFirst] at hRun
  exact ⟨hRun, hRun.redo_answer⟩

/-- Three edits, an undo too many for a limit of two, and an edit after two redos. -/
def sampleCalls : List Call :=
  [.setContent ['a'], .setContent ['b'], .setContent ['c'], .undo, .undo, .undo, .redo, .redo,
    .replaceRange ⟨5, 0⟩ ['d']]

theorem isTrimmed_followAll_sampleCalls :
    1 ≤ 2 ∧
    (∀ n ≤ sampleCalls.length, (followAll 2 10 [] (sampleCalls.take n)).2.undoCount < 10) ∧
    ∀ n ≤ sampleCalls.length,
      IsTrimmed 2 (followAll 2 10 [] (sampleCalls.take n)).1
        (followAll 2 10 [] (sampleCalls.take n)).2 ∧
      (followAll 2 10 [] (sampleCalls.take n)).1.redo.1 =
        (followAll 2 10 [] (sampleCalls.take n)).2.redo.1 := by
  have hLimit : 1 ≤ 2 := by decide
  have hBeyond : ∀ n ≤ sampleCalls.length,
      (followAll 2 10 [] (sampleCalls.take n)).2.undoCount < 10 := by
    intro n hn
    refine Nat.lt_of_le_of_lt (undoCount_followAll_le _ _ _ _) ?_
    rw [List.length_take, Nat.min_eq_left hn]
    exact Nat.lt_of_le_of_lt hn (by decide)
  exact ⟨hLimit, hBeyond, isTrimmed_followAll hLimit [] sampleCalls hBeyond⟩

end MarkdownEditor.TextBuffer
