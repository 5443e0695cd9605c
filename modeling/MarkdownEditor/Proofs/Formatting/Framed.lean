import MarkdownEditor.Formatting

/-!
# Texts cut at a selection

A command works on what stands before, inside and after the selection. A frame
keeps the three apart, so that adding and removing a marker on both sides are
inverse to each other without any arithmetic on offsets. A text with a settled
selection and its frame determine each other.
-/

namespace MarkdownEditor

set_option autoImplicit false

/-- A text in three parts, the middle one of which is selected. -/
@[ext] structure Framed where
  before : Text
  selected : Text
  after : Text

namespace Framed

def text (f : Framed) : Text := f.before ++ f.selected ++ f.after

def selection (f : Framed) : Selection :=
  ⟨f.before.length, f.before.length + f.selected.length⟩

/-- The frame of a text with a settled selection. -/
def cut (t : Text) (s : Selection) : Framed := ⟨t.take s.start, s.selected t, t.drop s.stop⟩

/-- The frame with one more marker on both sides. -/
def wrap (marker : Text) (f : Framed) : Framed :=
  ⟨f.before ++ marker, f.selected, marker ++ f.after⟩

/-- The frame whose selected text has a marker at both ends. -/
def mark (marker : Text) (f : Framed) : Framed :=
  ⟨f.before, marker ++ f.selected ++ marker, f.after⟩

theorem text_cut (t : Text) {s : Selection} (h : s.start ≤ s.stop) : (cut t s).text = t := by
  have hFront : t.take s.start ++ s.selected t = t.take s.stop := by
    have hTake : t.take s.start = (t.take s.stop).take s.start := by
      rw [List.take_take, Nat.min_eq_left h]
    rw [hTake]
    exact List.take_append_drop s.start (t.take s.stop)
  rw [text, cut, hFront, List.take_append_drop]

theorem selection_cut {t : Text} {s : Selection} (h : s.start ≤ s.stop)
    (hStop : s.stop ≤ t.length) : (cut t s).selection = s := by
  obtain ⟨start, stop⟩ := s
  simp only [selection, cut, Selection.selected, Text.length_slice, List.length_take,
    Selection.mk.injEq] at h hStop ⊢
  omega

variable (marker : Text) (f : Framed)

@[simp] theorem selection_start : f.selection.start = f.before.length := rfl

@[simp] theorem selection_stop : f.selection.stop = f.before.length + f.selected.length := rfl

theorem length_text : f.text.length = f.selection.stop + f.after.length := by
  simp [text, Nat.add_assoc]

theorem take_text : f.text.take f.selection.start = f.before := by
  rw [text, List.append_assoc, selection_start, List.take_left]

theorem drop_text : f.text.drop f.selection.stop = f.after := by
  rw [text, selection_stop, ← List.length_append, List.drop_left]

theorem selected_text : f.selection.selected f.text = f.selected := by
  have hTake : f.text.take f.selection.stop = f.before ++ f.selected := by
    rw [text, selection_stop, ← List.length_append, List.take_left]
  rw [Selection.selected, Text.slice, hTake, selection_start, List.drop_left]

theorem start_le_stop_selection : f.selection.start ≤ f.selection.stop := Nat.le_add_right _ _

theorem stop_selection_le : f.selection.stop ≤ f.text.length := by
  rw [length_text]
  exact Nat.le_add_right _ _

/-- The selection of a frame is settled. -/
theorem clamp_selection : f.selection.clamp f.text = f.selection :=
  Selection.clamp_eq_self f.start_le_stop_selection f.stop_selection_le

theorem apply_selection (insert : Text) :
    Edit.apply ⟨f.selection, insert⟩ f.text = f.before ++ insert ++ f.after := by
  rw [Edit.apply, take_text, drop_text]

theorem selection_wrap : (f.wrap marker).selection =
    ⟨f.selection.start + marker.length, f.selection.stop + marker.length⟩ := by
  simp only [selection, wrap, List.length_append, Selection.mk.injEq, true_and]
  omega

theorem selection_mark : (f.mark marker).selection =
    ⟨f.selection.start, f.selection.stop + marker.length + marker.length⟩ := by
  simp only [selection, mark, List.length_append, Selection.mk.injEq, true_and]
  omega

theorem text_mark : (f.mark marker).text = (f.wrap marker).text := by
  simp [text, wrap, mark]

end Framed

theorem Selection.clamp_clamp (t : Text) (s : Selection) : (s.clamp t).clamp t = s.clamp t :=
  clamp_eq_self (s.start_le_stop_clamp t) (s.stop_clamp_le t)

namespace Formatting

variable (marker : Text)

theorem isWrapped_iff (f : Framed) :
    isWrapped marker f.text f.selection = true ↔ marker <:+ f.before ∧ marker <+: f.after := by
  have hBefore : f.text.slice (f.selection.start - marker.length) f.selection.start =
      f.before.drop (f.before.length - marker.length) := by
    rw [Text.slice, f.take_text]
    rfl
  have hAfter : f.text.slice f.selection.stop (f.selection.stop + marker.length) =
      f.after.take marker.length := by
    rw [Text.slice, List.drop_take, f.drop_text, Nat.add_sub_cancel_left]
  rw [isWrapped, hBefore, hAfter, f.length_text, List.suffix_iff_eq_drop, List.prefix_iff_eq_take]
  simp only [Bool.and_eq_true, decide_eq_true_eq, beq_iff_eq]
  constructor
  · rintro ⟨⟨-, hDrop⟩, hTake⟩
    exact ⟨hDrop.symm, hTake.symm⟩
  · rintro ⟨hDrop, hTake⟩
    have hDropLength := congrArg List.length hDrop
    have hTakeLength := congrArg List.length hTake
    rw [List.length_drop] at hDropLength
    rw [List.length_take] at hTakeLength
    refine ⟨⟨⟨?_, ?_⟩, hDrop.symm⟩, hTake.symm⟩
    · simp only [Framed.selection]
      omega
    · omega

/-- The markers stand on both sides exactly when a smaller frame was wrapped in them. -/
theorem isWrapped_iff_exists_wrap (f : Framed) :
    isWrapped marker f.text f.selection = true ↔ ∃ g : Framed, f = g.wrap marker := by
  rw [isWrapped_iff]
  constructor
  · rintro ⟨⟨before, hBefore⟩, ⟨after, hAfter⟩⟩
    exact ⟨⟨before, f.selected, after⟩, Framed.ext hBefore.symm rfl hAfter.symm⟩
  · rintro ⟨g, rfl⟩
    exact ⟨List.suffix_append g.before marker, List.prefix_append marker g.after⟩

end Formatting

/-- The outcome leaves the text and the selection of the frame. -/
structure Outcome.Shows (o : Outcome) (f : Framed) (applied : Bool) : Prop where
  text : o.text = f.text
  selection : o.selection = f.selection
  applied : o.applied = applied

namespace Outcome.Shows

variable {o : Outcome} {f : Framed} {applied : Bool}

theorem take_start (h : o.Shows f applied) : o.text.take o.selection.start = f.before := by
  rw [h.text, h.selection, f.take_text]

theorem selected (h : o.Shows f applied) : o.selection.selected o.text = f.selected := by
  rw [h.text, h.selection, f.selected_text]

theorem drop_stop (h : o.Shows f applied) : o.text.drop o.selection.stop = f.after := by
  rw [h.text, h.selection, f.drop_text]

end Outcome.Shows

namespace Formatting

variable {marker : Text} {f : Framed}

/-- Markers on both sides are taken away. -/
theorem toggleInline_wrap_eq_removed (g : Framed) :
    toggleInline marker (g.wrap marker).text (g.wrap marker).selection =
      .removed (g.wrap marker).text ⟨(g.mark marker).selection, g.selected⟩ g.selection := by
  have hWrapped := (isWrapped_iff_exists_wrap marker (g.wrap marker)).mpr ⟨g, rfl⟩
  have hSelected : (g.wrap marker).selection.selected (g.wrap marker).text = g.selected :=
    (g.wrap marker).selected_text
  have hRange : (⟨(g.wrap marker).selection.start - marker.length,
      (g.wrap marker).selection.stop + marker.length⟩ : Selection) = (g.mark marker).selection := by
    rw [g.selection_wrap, g.selection_mark, Nat.add_sub_cancel]
  have hInner : (⟨(g.wrap marker).selection.start - marker.length,
      (g.wrap marker).selection.stop - marker.length⟩ : Selection) = g.selection := by
    rw [g.selection_wrap, Nat.add_sub_cancel, Nat.add_sub_cancel]
  unfold toggleInline
  rw [if_pos hWrapped, hSelected, hRange, hInner]

/-- Without them, markers are put on both sides. -/
theorem toggleInline_eq_added (h : ¬ ∃ g : Framed, f = g.wrap marker) :
    toggleInline marker f.text f.selection =
      .added f.text ⟨f.selection, marker ++ f.selected ++ marker⟩ (f.wrap marker).selection := by
  have hNot : ¬ isWrapped marker f.text f.selection = true :=
    fun hWrapped => h ((isWrapped_iff_exists_wrap marker f).mp hWrapped)
  unfold toggleInline
  rw [if_neg hNot, f.selected_text, f.selection_wrap]

theorem toggleInline_wrap (g : Framed) :
    (toggleInline marker (g.wrap marker).text (g.wrap marker).selection).Shows g false := by
  rw [toggleInline_wrap_eq_removed, ← g.text_mark]
  exact ⟨(g.mark marker).apply_selection g.selected, rfl, rfl⟩

theorem toggleInline_of_not_wrapped (h : ¬ ∃ g : Framed, f = g.wrap marker) :
    (toggleInline marker f.text f.selection).Shows (f.wrap marker) true := by
  rw [toggleInline_eq_added h]
  exact ⟨(f.apply_selection _).trans (f.text_mark marker), rfl, rfl⟩

end Formatting

end MarkdownEditor
