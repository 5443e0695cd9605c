import MarkdownEditor.Fence

/-!
# Fence lines

What a line that opens or closes a block looks like, as a whole: the backticks,
the tag, and one of four line endings.
-/

namespace MarkdownEditor.Fence

set_option autoImplicit false

open Text

/-- What may follow the tag of a fence line. -/
def endings : List Text := [[], ['\r'], ['\n'], ['\r', '\n']]

/-- The line is three backticks and the tag. -/
def IsOpener (line tag : Text) : Prop :=
  (∀ c ∈ tag, isTagChar c) ∧ ∃ ending ∈ endings, line = mark ++ tag ++ ending

/-- The line is three backticks. -/
def IsCloser (line : Text) : Prop := IsOpener line []

/-- The line without its line feed and the carriage return before it. -/
def stripped (line : Text) : Text := (lineContent line).dropReturn

theorem dropReturn_append_return (content : Text) :
    content = content.dropReturn ∨ content = content.dropReturn ++ ['\r'] := by
  unfold dropReturn
  split
  · next h =>
    obtain ⟨front, rfl⟩ := List.getLast?_eq_some_iff.mp h
    exact .inr (by simp)
  · exact .inl rfl

theorem lineEnd_eq (line : Text) : lineEnd line = [] ∨ lineEnd line = ['\n'] := by
  unfold lineEnd
  split
  · exact .inr rfl
  · exact .inl rfl

theorem exists_ending (line : Text) : ∃ ending ∈ endings, line = stripped line ++ ending := by
  have hLine := lineContent_append_lineEnd line
  rcases dropReturn_append_return (lineContent line) with hContent | hContent <;>
    rcases lineEnd_eq line with hEnd | hEnd <;> rw [hEnd, hContent] at hLine
  · exact ⟨[], by simp [endings], hLine.symm⟩
  · exact ⟨['\n'], by simp [endings], hLine.symm⟩
  · exact ⟨['\r'], by simp [endings], by simpa [stripped] using hLine.symm⟩
  · exact ⟨['\r', '\n'], by simp [endings], by simpa [stripped] using hLine.symm⟩

theorem stripped_append {front ending : Text} (hEnding : ending ∈ endings)
    (hFeed : front.getLast? ≠ some '\n') (hReturn : front.getLast? ≠ some '\r') :
    stripped (front ++ ending) = front := by
  simp only [endings, List.mem_cons, List.not_mem_nil, or_false] at hEnding
  rcases hEnding with rfl | rfl | rfl | rfl
  · simp [stripped, lineContent, dropReturn, hFeed, hReturn]
  · simp [stripped, lineContent, dropReturn]
  · simp [stripped, lineContent, dropReturn, hReturn]
  · have hFeed' : (front ++ ['\r', '\n']).getLast? = some '\n' := by simp
    have hInit : (front ++ ['\r', '\n']).dropLast = front ++ ['\r'] := by
      rw [List.dropLast_append_of_ne_nil (by simp)]
      rfl
    simp [stripped, lineContent, dropReturn, hFeed', hInit]

/-- No line ending is part of a fence's tag. -/
theorem getLast?_mark_append_ne {tag : Text} (hTag : ∀ c ∈ tag, isTagChar c) {c : Char}
    (hMark : c ∉ mark) (hc : isTagChar c = false) : (mark ++ tag).getLast? ≠ some c := by
  intro hLast
  rcases List.mem_append.mp (List.mem_of_getLast? hLast) with hMem | hMem
  · exact hMark hMem
  · rw [hTag c hMem] at hc
    exact Bool.noConfusion hc

theorem IsOpener.stripped_eq {line tag : Text} (h : IsOpener line tag) :
    stripped line = mark ++ tag := by
  obtain ⟨hTag, ending, hEnding, rfl⟩ := h
  exact stripped_append hEnding (getLast?_mark_append_ne hTag (by decide) (by decide))
    (getLast?_mark_append_ne hTag (by decide) (by decide))

theorem openerTag?_eq (line : Text) :
    openerTag? line =
      if mark.isPrefixOf (stripped line) && ((stripped line).drop mark.length).all isTagChar then
        some ((stripped line).drop mark.length)
      else none := rfl

theorem openerTag?_eq_some_iff (line tag : Text) :
    openerTag? line = some tag ↔ IsOpener line tag := by
  constructor
  · intro h
    obtain ⟨ending, hEnding, hLine⟩ := exists_ending line
    rw [openerTag?_eq] at h
    split at h
    · next hCond =>
      rw [Bool.and_eq_true, List.isPrefixOf_iff_prefix, List.all_eq_true] at hCond
      obtain ⟨⟨rest, hRest⟩, hAll⟩ := hCond
      rw [← hRest, List.drop_left] at h hAll
      obtain rfl := Option.some.inj h
      exact ⟨hAll, ending, hEnding, by rw [hRest]; exact hLine⟩
    · cases h
  · intro h
    have hPrefix : mark.isPrefixOf (mark ++ tag) = true :=
      List.isPrefixOf_iff_prefix.mpr (List.prefix_append mark tag)
    have hAll : tag.all isTagChar = true := List.all_eq_true.mpr h.1
    rw [openerTag?_eq, h.stripped_eq, List.drop_left, hPrefix, hAll]
    rfl

theorem isCloser_iff (line : Text) : isCloser line = true ↔ IsCloser line := by
  constructor
  · intro h
    obtain ⟨ending, hEnding, hLine⟩ := exists_ending line
    have hMark : stripped line = mark := eq_of_beq h
    exact ⟨by simp, ending, hEnding, by rw [List.append_nil, ← hMark]; exact hLine⟩
  · intro h
    have hMark : stripped line = mark := by simpa using h.stripped_eq
    exact beq_iff_eq.mpr hMark

theorem IsOpener.unique {line tag tag' : Text} (h : IsOpener line tag)
    (h' : IsOpener line tag') : tag = tag' :=
  List.append_cancel_left (h.stripped_eq.symm.trans h'.stripped_eq)

end MarkdownEditor.Fence
