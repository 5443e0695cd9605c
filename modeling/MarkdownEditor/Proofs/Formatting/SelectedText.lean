import MarkdownEditor.Proofs.Formatting.InlineOrbit
import MarkdownEditor.Proofs.Formatting.ListToggle
import MarkdownEditor.Proofs.Text.Offset

/-!
# The selection follows the text

A toggle changes a text at its markers and nowhere else. The selection that it leaves
covers the characters that were selected before, and on both sides of it stand the same
characters as before, but for the markers that came or went. A list marker that goes may
have stood on both sides of an end of the selection; then every part is without the
characters of the marker that were in it.
-/

namespace MarkdownEditor

set_option autoImplicit false

namespace Text

/-- The characters of `t` at the offsets from `a` up to but not including `b`, without
those that stand in `hole`. -/
def sliceOutside (t : Text) (hole : Selection) (a b : Nat) : Text :=
  t.slice a (min b hole.start) ++ t.slice (max a hole.stop) b

theorem slice_append_eq (front back : Text) (a b : Nat) : (front ++ back).slice a b =
    front.slice a b ++ back.slice (a - front.length) (b - front.length) := by
  simp only [slice, List.take_append, List.drop_append, List.length_take]
  congr 1
  by_cases h : b ≤ front.length
  · rw [Nat.sub_eq_zero_of_le h]
    simp
  · rw [Nat.min_eq_right (Nat.le_of_not_le h)]

theorem slice_append_right {front : Text} {a : Nat} (h : front.length ≤ a) (back : Text)
    (b : Nat) :
    (front ++ back).slice a b = back.slice (a - front.length) (b - front.length) := by
  rw [slice_append_eq, slice_eq_nil (Nat.le_trans (Nat.min_le_right _ _) h), List.nil_append]

theorem drop_append_right {front : Text} {a : Nat} (h : front.length ≤ a) (back : Text) :
    (front ++ back).drop a = back.drop (a - front.length) := by
  rw [List.drop_append, List.drop_eq_nil_of_le h, List.nil_append]

theorem max_sub_sub_self (a count floor : Nat) :
    max (a - count) floor - floor = a - (floor + count) := by
  omega

section Hole

variable (front hole back : Text)

theorem sliceOutside_append (a b : Nat) :
    (front ++ (hole ++ back)).sliceOutside ⟨front.length, front.length + hole.length⟩ a b =
      front.slice a b ++
        back.slice (a - (front.length + hole.length)) (b - (front.length + hole.length)) := by
  have hFront : (front ++ (hole ++ back)).take (min b front.length) = front.take b := by
    rw [List.take_append_of_le_length (Nat.min_le_right _ _), ← List.take_take, List.take_length]
  rw [sliceOutside, slice, hFront, ← List.append_assoc, ← List.length_append,
    slice_append_right (Nat.le_max_right _ _), ← Nat.sub_max_sub_right, Nat.sub_self,
    Nat.max_zero]
  rfl

variable {front} {a : Nat} (h : front.length ≤ a)
include h

/-- Offsets after the hole move to the left with what they point at, and those inside it
to its start. -/
theorem slice_closed (b : Nat) :
    (front ++ back).slice (max (a - hole.length) front.length)
        (max (b - hole.length) front.length) =
      (front ++ (hole ++ back)).sliceOutside ⟨front.length, front.length + hole.length⟩ a b := by
  have hFront : front.slice a b = [] := slice_eq_nil (Nat.le_trans (Nat.min_le_right _ _) h)
  rw [sliceOutside_append, slice_append_right (Nat.le_max_right _ _), max_sub_sub_self,
    max_sub_sub_self, hFront, List.nil_append]

theorem take_closed : (front ++ back).take (max (a - hole.length) front.length) =
    (front ++ (hole ++ back)).sliceOutside ⟨front.length, front.length + hole.length⟩ 0 a := by
  rw [sliceOutside_append, List.take_append, max_sub_sub_self,
    List.take_of_length_le (Nat.le_max_right _ _), slice, List.take_of_length_le h, Nat.zero_sub]
  rfl

theorem drop_closed : (front ++ back).drop (max (a - hole.length) front.length) =
    (front ++ (hole ++ back)).sliceOutside ⟨front.length, front.length + hole.length⟩ a
      (front ++ (hole ++ back)).length := by
  have hAll : back.length ≤
      (front ++ (hole ++ back)).length - (front.length + hole.length) := by
    simp only [List.length_append]
    omega
  have hFront (b : Nat) : front.slice a b = [] :=
    slice_eq_nil (Nat.le_trans (Nat.min_le_right _ _) h)
  rw [sliceOutside_append, drop_append_right (Nat.le_max_right _ _), max_sub_sub_self,
    hFront, List.nil_append, slice, List.take_of_length_le hAll]

end Hole

end Text

/-- What stands before, inside and after the selection that a toggle of `t` leaves, compared
with what stood before, inside and after the settled selection `s`. -/
inductive Outcome.Follows (c : Command) (t : Text) (s : Selection) (o : Outcome) : Prop where
  | wrapped {marker : Text} (hMarker : c.inlineMarker? = some marker) (hApplied : o.applied = true)
    (hSelected : o.selection.selected o.text = s.selected t)
    (hBefore : o.text.take o.selection.start = t.take s.start ++ marker)
    (hAfter : o.text.drop o.selection.stop = marker ++ t.drop s.stop)
  | unwrapped {marker : Text} (hMarker : c.inlineMarker? = some marker)
    (hApplied : o.applied = false)
    (hSelected : o.selection.selected o.text = s.selected t)
    (hBefore : t.take s.start = o.text.take o.selection.start ++ marker)
    (hAfter : t.drop s.stop = marker ++ o.text.drop o.selection.stop)
  | marked {marker before stretch rest : Text} (hMarker : c.listMarker? = some marker)
    (hApplied : o.applied = true) (hLine : t.IsLineSplit s.start before rest)
    (hStart : t.take s.start = before ++ stretch)
    (hSelected : o.selection.selected o.text = s.selected t)
    (hBefore : o.text.take o.selection.start = before ++ marker ++ stretch)
    (hAfter : o.text.drop o.selection.stop = t.drop s.stop)
  | unmarked {marker before rest : Text} {hole : Selection} (hMarker : c.listMarker? = some marker)
    (hApplied : o.applied = false) (hLine : t.IsLineSplit s.start before (marker ++ rest))
    (hHole : hole = ⟨before.length, before.length + marker.length⟩)
    (hSelected : o.selection.selected o.text = t.sliceOutside hole s.start s.stop)
    (hBefore : o.text.take o.selection.start = t.sliceOutside hole 0 s.start)
    (hAfter : o.text.drop o.selection.stop = t.sliceOutside hole s.stop t.length)

namespace Outcome

variable {c : Command} {marker : Text} {s : Selection}

theorem follows_toggleInline (hMarker : c.inlineMarker? = some marker) (f : Framed) :
    (Formatting.toggleInline marker f.text f.selection).Follows c f.text f.selection := by
  by_cases hWrapped : ∃ g : Framed, f = g.wrap marker
  · obtain ⟨g, rfl⟩ := hWrapped
    have hShows : (Formatting.toggleInline marker (g.wrap marker).text
        (g.wrap marker).selection).Shows g false := Formatting.toggleInline_wrap g
    refine .unwrapped hMarker hShows.applied ?_ ?_ ?_
    · rw [hShows.selected, Framed.selected_text]
      rfl
    · rw [hShows.take_start, Framed.take_text]
      rfl
    · rw [hShows.drop_stop, Framed.drop_text]
      rfl
  · have hShows := Formatting.toggleInline_of_not_wrapped hWrapped
    refine .wrapped hMarker hShows.applied ?_ ?_ ?_
    · rw [hShows.selected, f.selected_text]
      rfl
    · rw [hShows.take_start, f.take_text]
      rfl
    · rw [hShows.drop_stop, f.drop_text]
      rfl

theorem follows_toggleList (hMarker : c.listMarker? = some marker) (t : Text)
    (hOrder : s.start ≤ s.stop) (hStop : s.stop ≤ t.length) :
    (Formatting.toggleList marker t s).Follows c t s := by
  obtain ⟨before, rest, hLine, hCases⟩ := Formatting.toggleList_cases
    (Formatting.notLineFeed_of_listMarker? hMarker) t (Nat.le_trans hOrder hStop)
  obtain rfl := hLine.text
  have hLe := hLine.le
  have hLeStop := Nat.le_trans hLe hOrder
  rcases hCases with ⟨⟨after, rfl⟩, hOutcome⟩ | ⟨-, hOutcome⟩
  · have hText : (Formatting.toggleList marker (before ++ (marker ++ after)) s).text =
        before ++ after := by
      rw [hOutcome, Formatting.text_removed_front]
    have hSelection := congrArg Outcome.selection hOutcome
    refine .unmarked hMarker (by rw [hOutcome]; rfl) hLine rfl ?_ ?_ ?_
    · rw [hText, hSelection]
      exact Text.slice_closed marker after hLe s.stop
    · rw [hText, hSelection]
      exact Text.take_closed marker after hLe
    · rw [hText, hSelection]
      exact Text.drop_closed marker after hLeStop
  · have hText : (Formatting.toggleList marker (before ++ rest) s).text =
        (before ++ marker) ++ rest := by
      rw [hOutcome, Formatting.text_added_front, List.append_assoc]
    have hSelection := congrArg Outcome.selection hOutcome
    have hPast (x : Nat) (h : before.length ≤ x) :
        (before ++ marker).length ≤ x + marker.length := by
      rw [List.length_append]
      exact Nat.add_le_add_right h _
    have hPlace (x : Nat) : x + marker.length - (before ++ marker).length =
        x - before.length := by
      rw [List.length_append, Nat.add_sub_add_right]
    have hStart : (before ++ rest).take s.start = before ++ rest.take (s.start - before.length) := by
      rw [List.take_append, List.take_of_length_le hLe]
    refine .marked hMarker (by rw [hOutcome]; rfl) hLine hStart ?_ ?_ ?_
    · rw [hText, hSelection]
      change Text.slice _ (s.start + marker.length) (s.stop + marker.length) = Text.slice _ _ _
      rw [Text.slice_append_right (hPast s.start hLe), Text.slice_append_right hLe, hPlace, hPlace]
    · rw [hText, hSelection]
      change List.take (s.start + marker.length) _ = _
      rw [List.take_append, List.take_of_length_le (hPast s.start hLe), hPlace]
    · rw [hText, hSelection]
      change List.drop (s.stop + marker.length) _ = _
      rw [Text.drop_append_right (hPast s.stop hLeStop), Text.drop_append_right hLeStop, hPlace]

end Outcome

/-- After a toggle the same characters are selected as before it, and the same ones stand on
both sides of them, but for the markers. -/
theorem Command.follows_apply {c : Command} (hLink : c ≠ .link) (hUndo : c ≠ .undo) (t : Text)
    (raw : Selection) : (c.apply t raw).Follows c t (raw.clamp t) := by
  have hOrder := raw.start_le_stop_clamp t
  have hStop := raw.stop_clamp_le t
  have hInline {c : Command} {marker : Text} (hMarker : c.inlineMarker? = some marker) :
      (c.apply t raw).Follows c t (raw.clamp t) :=
    Formatting.apply_inline_of_framed hMarker (Outcome.follows_toggleInline hMarker) t raw
  have hList {c : Command} {marker : Text} (hMarker : c.listMarker? = some marker) :
      (c.apply t raw).Follows c t (raw.clamp t) := by
    rw [Formatting.apply_of_listMarker? hMarker]
    exact Outcome.follows_toggleList hMarker t hOrder hStop
  cases c with
  | bold => exact hInline rfl
  | italic => exact hInline rfl
  | inlineCode => exact hInline rfl
  | link => exact absurd rfl hLink
  | orderedList => exact hList rfl
  | unorderedList => exact hList rfl
  | undo => exact absurd rfl hUndo

/-- A reversed selection that starts inside the marker that goes and stops on the next line. -/
theorem Command.follows_apply_insideMarker :
    Command.orderedList ≠ .link ∧ Command.orderedList ≠ .undo ∧
    (Command.orderedList.apply "é\n1. ∀b\nc".toList ⟨8, 3⟩).Follows .orderedList
      "é\n1. ∀b\nc".toList ⟨3, 8⟩ :=
  ⟨by decide, by decide, Command.follows_apply (by decide) (by decide) _ ⟨8, 3⟩⟩

example : (Command.orderedList.apply "é\n1. ∀b\nc".toList ⟨8, 3⟩).selection = ⟨2, 5⟩ := by
  decide

end MarkdownEditor
