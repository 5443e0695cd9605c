import MarkdownEditor.Text.Basic

/-!
# Selections and edits

A selection is a pair of character offsets. A host may report any pair, also
a reversed one or one past the end of its text; `clamp` settles it.

An edit replaces one range of characters by a text. Hosts replay it through
their own editing primitive, so their undo history sees it as one step.
-/

namespace MarkdownEditor

set_option autoImplicit false

structure Selection where
  start : Nat
  stop : Nat
deriving DecidableEq, Repr, Inhabited

namespace Selection

/-- The selection between two offsets, in ascending order. -/
def between (a b : Nat) : Selection := ⟨min a b, max a b⟩

/-- An insertion point with nothing selected. -/
def caret (offset : Nat) : Selection := ⟨offset, offset⟩

def isCaret (s : Selection) : Bool := s.start == s.stop

/-- The distance of the two offsets, whichever is larger. -/
def length (s : Selection) : Nat := max s.start s.stop - min s.start s.stop

/-- The selection in ascending order, with both ends inside `t`. -/
def clamp (t : Text) (s : Selection) : Selection :=
  between (t.clampOffset s.start) (t.clampOffset s.stop)

/-- The selected characters. -/
def selected (t : Text) (s : Selection) : Text := t.slice s.start s.stop

theorem start_le_stop_between (a b : Nat) : (between a b).start ≤ (between a b).stop := by
  simp only [between]
  omega

theorem between_of_le {a b : Nat} (h : a ≤ b) : between a b = ⟨a, b⟩ := by
  simp [between, Nat.min_eq_left h, Nat.max_eq_right h]

theorem start_le_stop_clamp (t : Text) (s : Selection) :
    (clamp t s).start ≤ (clamp t s).stop :=
  start_le_stop_between _ _

theorem stop_clamp_le (t : Text) (s : Selection) : (clamp t s).stop ≤ t.length := by
  simp only [clamp, between, Text.clampOffset]
  omega

theorem clamp_eq_self {t : Text} {s : Selection} (h : s.start ≤ s.stop)
    (hStop : s.stop ≤ t.length) : clamp t s = s := by
  have hStart : t.clampOffset s.start = s.start := Nat.min_eq_left (Nat.le_trans h hStop)
  rw [clamp, hStart, Text.clampOffset, Nat.min_eq_left hStop, between_of_le h]

end Selection

structure Edit where
  range : Selection
  insert : Text
deriving DecidableEq, Repr

/-- The text after the edit. -/
def Edit.apply (e : Edit) (t : Text) : Text :=
  t.take e.range.start ++ e.insert ++ t.drop e.range.stop

end MarkdownEditor
