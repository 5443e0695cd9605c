import MarkdownEditor.Proofs.Text.Offset
import MarkdownEditor.Selection

/-!
# Steps of a machine with 64-bit offsets

What a machine can do with offsets into a text: add and subtract within the range of a word,
read a character, and cut the text at bytes. Each step that would leave the range, miss the
text or cut a character is a trap. Memory is as large as it has to be.
-/

namespace MarkdownEditor

set_option autoImplicit false

namespace Machine

inductive Trap where
  | overflow
  | underflow
  | outOfRange
  | badCut
deriving DecidableEq, Repr

/-- The largest offset a word holds. -/
def maxOffset : Nat := 0xFFFFFFFFFFFFFFFF

/-- The size up to which texts are looked at here: a quarter of the range of a word. -/
def maxTextSize : Nat := 0x4000000000000000

def add (a b : Nat) : Except Trap Nat :=
  if a + b ≤ maxOffset then .ok (a + b) else .error .overflow

def sub (a b : Nat) : Except Trap Nat := if b ≤ a then .ok (a - b) else .error .underflow

def charAt (t : Text) (n : Nat) : Except Trap Char :=
  if h : n < t.length then .ok t[n] else .error .outOfRange

/-- The text between two bytes. -/
def cut (t : Text) (a b : Nat) : Except Trap Text :=
  if a ≤ b ∧ Text.IsBoundary t a ∧ Text.IsBoundary t b then
    .ok (t.slice (t.charOffset a) (t.charOffset b))
  else .error .badCut

/-- The text with the part between two bytes replaced. -/
def splice (t : Text) (a b : Nat) (insert : Text) : Except Trap Text :=
  if a ≤ b ∧ Text.IsBoundary t a ∧ Text.IsBoundary t b then
    .ok (Edit.apply ⟨⟨t.charOffset a, t.charOffset b⟩, insert⟩ t)
  else .error .badCut

/-- The characters between two offsets, cut at bytes. -/
def charSlice (t : Text) (a b : Nat) : Except Trap Text :=
  if t.byteOffset b ≤ t.byteOffset a then .ok [] else cut t (t.byteOffset a) (t.byteOffset b)

/-- The byte at which the character first stands in the text. -/
def find? (c : Char) : Text → Option Nat
  | [] => none
  | d :: t => if d = c then some 0 else (find? c t).map (d.utf8Size + ·)

/-- The byte at which the character last stands in the text. -/
def rfind? (c : Char) : Text → Option Nat
  | [] => none
  | d :: t =>
    match rfind? c t with
    | some b => some (d.utf8Size + b)
    | none => if d = c then some 0 else none

/-- The list without its last entry, which is taken from it by its index. -/
def removeLast {α : Type} : List α → Except Trap (List α)
  | [] => .error .outOfRange
  | x :: xs => .ok (x :: xs).dropLast

variable {a b n m : Nat} {t : Text}

theorem add_eq_ok (h : a + b ≤ 2 * maxTextSize + 16) : add a b = .ok (a + b) :=
  if_pos (Nat.le_trans h (by decide))

theorem sub_eq_ok (h : b ≤ a) : sub a b = .ok (a - b) := if_pos h

theorem charAt_eq_ok (h : n < t.length) : charAt t n = .ok t[n] := dif_pos h

@[simp] theorem ok_bind {α β : Type} (x : α) (f : α → Except Trap β) :
    (Except.ok x >>= f) = f x := rfl

theorem cut_byteOffset (h : t.byteOffset n ≤ t.byteOffset m) :
    cut t (t.byteOffset n) (t.byteOffset m) = .ok (t.slice n m) := by
  rw [cut, if_pos ⟨h, t.isBoundary_byteOffset n, t.isBoundary_byteOffset m⟩,
    Text.charOffset_byteOffset, Text.charOffset_byteOffset, Text.slice_min]

theorem cut_front (t : Text) (n : Nat) : cut t 0 (t.byteOffset n) = .ok (t.take n) := by
  have hCut := cut_byteOffset (t := t) (n := 0) (m := n) (by simp)
  rwa [Text.byteOffset_zero] at hCut

theorem cut_back (t : Text) (n : Nat) :
    cut t (t.byteOffset n) t.byteSize = .ok (t.drop n) := by
  rw [← Text.byteOffset_length, cut_byteOffset, Text.slice, List.take_length]
  rw [Text.byteOffset_length]
  exact t.byteOffset_le n

theorem splice_byteOffset (hn : n ≤ m) (hm : m ≤ t.length) (insert : Text) :
    splice t (t.byteOffset n) (t.byteOffset m) insert = .ok (Edit.apply ⟨⟨n, m⟩, insert⟩ t) := by
  have hOrder := (Text.byteOffset_le_byteOffset_iff (Nat.le_trans hn hm) hm).mpr hn
  rw [splice, if_pos ⟨hOrder, t.isBoundary_byteOffset n, t.isBoundary_byteOffset m⟩,
    Text.charOffset_byteOffset, Text.charOffset_byteOffset, Nat.min_eq_left hm,
    Nat.min_eq_left (Nat.le_trans hn hm)]

theorem charSlice_eq_ok (t : Text) (a b : Nat) : charSlice t a b = .ok (t.slice a b) := by
  unfold charSlice
  split
  · next h =>
    rw [← Text.byteOffset_min t b, ← Text.byteOffset_min t a,
      Text.byteOffset_le_byteOffset_iff (Nat.min_le_right _ _) (Nat.min_le_right _ _)] at h
    rw [Text.slice_eq_nil (Nat.le_trans h (Nat.min_le_left _ _))]
  · next h => exact cut_byteOffset (Nat.le_of_not_le h)

section

variable {c : Char} {line : Text} (h : c ∉ line)
include h

theorem find?_of_not_mem : find? c line = none := by
  induction line with
  | nil => rfl
  | cons d line ih =>
    obtain ⟨hd, hLine⟩ := not_or.mp fun hMem => h (List.mem_cons.mpr hMem)
    rw [find?, if_neg (Ne.symm hd), ih hLine, Option.map_none]

theorem find?_append (after : Text) : find? c (line ++ c :: after) = some line.byteSize := by
  induction line with
  | nil => exact if_pos rfl
  | cons d line ih =>
    obtain ⟨hd, hLine⟩ := not_or.mp fun hMem => h (List.mem_cons.mpr hMem)
    rw [List.cons_append, find?, if_neg (Ne.symm hd), ih hLine, Option.map_some,
      Text.byteSize_cons]

theorem rfind?_of_not_mem : rfind? c line = none := by
  induction line with
  | nil => rfl
  | cons d line ih =>
    obtain ⟨hd, hLine⟩ := not_or.mp fun hMem => h (List.mem_cons.mpr hMem)
    rw [rfind?, ih hLine]
    exact if_neg (Ne.symm hd)

theorem rfind?_append (before : Text) : rfind? c (before ++ c :: line) = some before.byteSize := by
  induction before with
  | nil =>
    rw [List.nil_append, rfind?, rfind?_of_not_mem h]
    exact if_pos rfl
  | cons d before ih => rw [List.cons_append, rfind?, ih, Text.byteSize_cons]

end

end Machine

end MarkdownEditor
