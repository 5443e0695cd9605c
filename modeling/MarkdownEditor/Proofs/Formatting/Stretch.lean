import MarkdownEditor.Proofs.Formatting.Framed
import MarkdownEditor.Proofs.Text.Line

/-!
# The line and the word at an offset

A list command works on the line that holds the selection's start, a link on the
word at the caret. Both are found by running from an offset to the next character
that does not belong. Here the text is cut there, so that what the two commands
make of it can be said without any offsets to run from.
-/

namespace MarkdownEditor

set_option autoImplicit false

/-- In `t`, cut into `before` and `rest`, the rest begins with the line that holds
offset `n`. -/
structure Text.IsLineSplit (t : Text) (n : Nat) (before rest : Text) : Prop where
  text : t = before ++ rest
  start : Text.AtLineStart before
  le : before.length ≤ n
  single : '\n' ∉ (t.take n).drop before.length

namespace Formatting

section Run

variable (p : Char → Bool) (t : Text) (n : Nat)

theorem add_runAfter_le {n : Nat} (h : n ≤ t.length) : n + runAfter p t n ≤ t.length := by
  have hTake := (List.takeWhile_sublist p (l := t.drop n)).length_le
  rw [List.length_drop] at hTake
  unfold runAfter
  omega

theorem exists_runBefore : ∃ before run, t.take n = before ++ run ∧
    run.length = runBefore p t n ∧ (∀ c ∈ run, p c = true) ∧
    ∀ c, before.getLast? = some c → p c = false := by
  refine ⟨((t.take n).reverse.dropWhile p).reverse, ((t.take n).reverse.takeWhile p).reverse,
    ?_, List.length_reverse, ?_, ?_⟩
  · rw [← List.reverse_append, List.takeWhile_append_dropWhile, List.reverse_reverse]
  · intro c hc
    exact List.all_eq_true.mp List.all_takeWhile c (List.mem_reverse.mp hc)
  · intro c hc
    have hStop := List.head?_dropWhile_not p (t.take n).reverse
    rw [List.getLast?_reverse] at hc
    rwa [hc] at hStop

theorem exists_runAfter : ∃ run after, t.drop n = run ++ after ∧
    run.length = runAfter p t n ∧ (∀ c ∈ run, p c = true) ∧
    ∀ c, after.head? = some c → p c = false := by
  refine ⟨(t.drop n).takeWhile p, (t.drop n).dropWhile p, List.takeWhile_append_dropWhile.symm,
    rfl, ?_, ?_⟩
  · intro c hc
    exact List.all_eq_true.mp List.all_takeWhile c hc
  · intro c hc
    have hStop := List.head?_dropWhile_not p (t.drop n)
    rwa [hc] at hStop

end Run

theorem prefix_takeWhile_iff {p : Char → Bool} {marker : Text} (h : ∀ c ∈ marker, p c = true)
    (t : Text) : marker <+: t.takeWhile p ↔ marker <+: t := by
  constructor
  · exact fun hPrefix => hPrefix.trans (List.takeWhile_prefix p)
  · rintro ⟨rest, rfl⟩
    rw [List.takeWhile_append_of_pos h]
    exact List.prefix_append _ _

theorem exists_isLineSplit {t : Text} {n : Nat} (h : n ≤ t.length) : ∃ before rest,
    t.IsLineSplit n before rest ∧ before.length = lineStart t n ∧
    t.slice (lineStart t n) (lineStop t n) = rest.takeWhile notLineFeed := by
  obtain ⟨before, run, hTake, hRun, hPlain, hStop⟩ := exists_runBefore notLineFeed t n
  have hLength : before.length + run.length = n := by
    rw [← List.length_append, ← hTake, List.length_take, Nat.min_eq_left h]
  have hStart : before.length = lineStart t n := by
    unfold lineStart
    omega
  have hSplit : t = before ++ (run ++ t.drop n) := by
    rw [← List.append_assoc, ← hTake, List.take_append_drop]
  refine ⟨before, run ++ t.drop n, ⟨hSplit, ?_, by omega, ?_⟩, hStart, ?_⟩
  · cases hLast : before.getLast? with
    | none => exact .inl (List.getLast?_eq_none_iff.mp hLast)
    | some c =>
      have hc := hStop c hLast
      simp only [notLineFeed, bne_eq_false_iff_eq] at hc
      exact .inr (by rw [hLast, hc])
  · rw [hTake, List.drop_left]
    intro hFeed
    exact absurd (hPlain _ hFeed) (by decide)
  · have hFront : t.take (lineStop t n) = before ++ (run ++ (t.drop n).takeWhile notLineFeed) := by
      unfold lineStop runAfter
      rw [List.take_add, hTake, List.append_assoc,
        ← List.prefix_iff_eq_take.mp (List.takeWhile_prefix _)]
    rw [Text.slice, hFront, ← hStart, List.drop_left, List.takeWhile_append_of_pos hPlain]

theorem text_removed_front (before marker rest : Text) (s : Selection) :
    (Outcome.removed (before ++ (marker ++ rest))
      ⟨⟨before.length, before.length + marker.length⟩, []⟩ s).text = before ++ rest := by
  simp [Outcome.removed, Edit.apply]

theorem text_added_front (before marker rest : Text) (s : Selection) :
    (Outcome.added (before ++ rest) ⟨.caret before.length, marker⟩ s).text =
      before ++ (marker ++ rest) := by
  simp [Outcome.added, Edit.apply, Selection.caret]

/-- A list command takes its marker away from the start of the line if it stands there, and
puts it there otherwise. -/
theorem toggleList_cases {marker : Text} (hMarker : ∀ c ∈ marker, notLineFeed c = true) (t : Text)
    {s : Selection} (h : s.start ≤ t.length) : ∃ before rest,
    t.IsLineSplit s.start before rest ∧
    ((marker <+: rest ∧ toggleList marker t s =
        .removed t ⟨⟨before.length, before.length + marker.length⟩, []⟩
          ⟨max (s.start - marker.length) before.length,
            max (s.stop - marker.length) before.length⟩) ∨
      (¬ marker <+: rest ∧ toggleList marker t s =
        .added t ⟨.caret before.length, marker⟩
          ⟨s.start + marker.length, s.stop + marker.length⟩)) := by
  obtain ⟨before, rest, hSplit, hStart, hLine⟩ := exists_isLineSplit h
  have hFound : marker.isPrefixOf (t.slice (lineStart t s.start) (lineStop t s.start)) = true ↔
      marker <+: rest := by
    rw [hLine, List.isPrefixOf_iff_prefix, prefix_takeWhile_iff hMarker]
  refine ⟨before, rest, hSplit, ?_⟩
  rw [hStart]
  by_cases hPrefix : marker <+: rest
  · exact .inl ⟨hPrefix, if_pos (hFound.mpr hPrefix)⟩
  · exact .inr ⟨hPrefix, if_neg (mt hFound.mp hPrefix)⟩

/-- The range that a link takes the place of: the selection, or the word at the caret. -/
def linkRange (t : Text) (s : Selection) : Selection := if s.isCaret then wordAt t s.start else s

def linkLabel (chosen : Text) : Text := if chosen.isEmpty then linkPlaceholder else chosen

theorem sublist_linkLabel (chosen : Text) : chosen.Sublist (linkLabel chosen) := by
  unfold linkLabel
  split
  · next hEmpty =>
    rw [List.isEmpty_iff.mp hEmpty]
    exact List.nil_sublist _
  · exact List.Sublist.refl chosen

theorem insertLink_eq (t : Text) (s : Selection) : insertLink t s =
    .added t ⟨linkRange t s, ['['] ++ linkLabel ((linkRange t s).selected t) ++ [']', '('] ++
        addressPlaceholder ++ [')']⟩
      ⟨(linkRange t s).start + (linkLabel ((linkRange t s).selected t)).length + 3,
        (linkRange t s).start + (linkLabel ((linkRange t s).selected t)).length + 3 +
          addressPlaceholder.length⟩ := rfl

theorem start_le_stop_linkRange (t : Text) {s : Selection} (h : s.start ≤ s.stop) :
    (linkRange t s).start ≤ (linkRange t s).stop := by
  unfold linkRange
  split
  · exact Nat.le_trans (Nat.sub_le _ _) (Nat.le_add_right _ _)
  · exact h

theorem stop_linkRange_le (t : Text) {s : Selection} (h : s.start ≤ s.stop)
    (hStop : s.stop ≤ t.length) : (linkRange t s).stop ≤ t.length := by
  unfold linkRange
  split
  · exact add_runAfter_le _ t (Nat.le_trans h hStop)
  · exact hStop

end Formatting

end MarkdownEditor
