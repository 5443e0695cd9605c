import MarkdownEditor.Text.Basic

/-!
# Blank characters

The blank characters are the white space of Unicode. The zero-width space and
the byte order mark are not among them.
-/

namespace MarkdownEditor.Text

set_option autoImplicit false

def isBlankChar (c : Char) : Bool :=
  let n := c.toNat
  (9 ≤ n && n ≤ 13) || n == 0x20 || n == 0x85 || n == 0xA0 || n == 0x1680 ||
    (0x2000 ≤ n && n ≤ 0x200A) || n == 0x2028 || n == 0x2029 || n == 0x202F ||
    n == 0x205F || n == 0x3000

/-- The text without the blank characters at its two ends. -/
def trim (t : Text) : Text :=
  ((t.dropWhile isBlankChar).reverse.dropWhile isBlankChar).reverse

/-- Nothing but blank characters. -/
def isBlank (t : Text) : Bool := t.all isBlankChar

theorem dropWhile_isBlankChar_eq_nil_iff (t : Text) :
    t.dropWhile isBlankChar = [] ↔ isBlank t = true := by
  induction t with
  | nil => simp [isBlank]
  | cons c t ih =>
    by_cases h : isBlankChar c = true
    · rw [List.dropWhile_cons_of_pos h, ih]
      simp [isBlank, h]
    · simp [isBlank, h]

theorem isBlank_dropWhile (t : Text) : isBlank (t.dropWhile isBlankChar) = isBlank t := by
  induction t with
  | nil => rfl
  | cons c t ih =>
    by_cases h : isBlankChar c = true
    · simpa [List.dropWhile_cons, isBlank, h] using ih
    · simp [h]

theorem trim_eq_nil_iff (t : Text) : trim t = [] ↔ isBlank t = true := by
  rw [trim, List.reverse_eq_nil_iff, dropWhile_isBlankChar_eq_nil_iff]
  have hReverse : isBlank (t.dropWhile isBlankChar).reverse = isBlank (t.dropWhile isBlankChar) := by
    simp [isBlank]
  rw [hReverse, isBlank_dropWhile]

theorem isEmpty_trim (t : Text) : (trim t).isEmpty = isBlank t := by
  rw [Bool.eq_iff_iff, List.isEmpty_iff]
  exact trim_eq_nil_iff t

theorem isBlank_takeWhile (t : Text) : isBlank (t.takeWhile isBlankChar) = true :=
  List.all_takeWhile

theorem exists_trim (t : Text) : ∃ before after,
    isBlank before = true ∧ isBlank after = true ∧ t = before ++ trim t ++ after := by
  refine ⟨t.takeWhile isBlankChar,
    ((t.dropWhile isBlankChar).reverse.takeWhile isBlankChar).reverse,
    isBlank_takeWhile t, ?_, ?_⟩
  · rw [isBlank, List.all_reverse]
    exact isBlank_takeWhile _
  · rw [trim, List.append_assoc, ← List.reverse_append, List.takeWhile_append_dropWhile,
      List.reverse_reverse, List.takeWhile_append_dropWhile]

theorem dropWhile_isBlankChar_append {before t : Text} (hBefore : isBlank before = true)
    (h : ∀ c ∈ t.head?, isBlankChar c = false) : (before ++ t).dropWhile isBlankChar = t := by
  rw [List.dropWhile_append_of_pos (by simpa [isBlank] using hBefore)]
  cases t with
  | nil => rfl
  | cons c t => rw [List.dropWhile_cons_of_neg (by simp [h c rfl])]

theorem trim_append {before middle after : Text} (hBefore : isBlank before = true)
    (hAfter : isBlank after = true) (hNil : middle ≠ [])
    (hFirst : ∀ c ∈ middle.head?, isBlankChar c = false)
    (hLast : ∀ c ∈ middle.getLast?, isBlankChar c = false) :
    trim (before ++ middle ++ after) = middle := by
  have hFront : (before ++ (middle ++ after)).dropWhile isBlankChar = middle ++ after := by
    refine dropWhile_isBlankChar_append hBefore fun c hc => hFirst c ?_
    cases middle with
    | nil => exact absurd rfl hNil
    | cons d middle => exact hc
  have hBack : (after.reverse ++ middle.reverse).dropWhile isBlankChar = middle.reverse := by
    refine dropWhile_isBlankChar_append (by simpa [isBlank] using hAfter) fun c hc => hLast c ?_
    rwa [List.head?_reverse] at hc
  rw [trim, List.append_assoc, hFront, List.reverse_append, hBack, List.reverse_reverse]

end MarkdownEditor.Text
