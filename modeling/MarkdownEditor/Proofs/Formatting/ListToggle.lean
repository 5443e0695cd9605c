import MarkdownEditor.Proofs.Formatting.Stretch

/-!
# List commands, line by line

A text split at its line feeds is a list of lines, the last of which is empty if the text
ends with a line feed. A list command changes one of them, the one whose number is the
number of line feeds before the selection's start, and leaves the others as they are.
-/

namespace MarkdownEditor

set_option autoImplicit false

namespace Text

theorem splitOn_cons_feed (t : Text) : ('\n' :: t).splitOn '\n' = [] :: t.splitOn '\n' := by
  rw [List.splitOn_eq_splitOnP, List.splitOnP_cons_eq_if_modifyHead, if_pos (beq_self_eq_true '\n')]
  rfl

theorem splitOn_cons_of_ne {c : Char} (h : c ≠ '\n') (t : Text) :
    (c :: t).splitOn '\n' = (t.splitOn '\n').modifyHead (c :: ·) := by
  rw [List.splitOn_eq_splitOnP, List.splitOnP_cons_eq_if_modifyHead, if_neg (by simpa using h)]
  rfl

theorem length_splitOn (t : Text) : (t.splitOn '\n').length = t.count '\n' + 1 := by
  induction t with
  | nil => rfl
  | cons c t ih =>
    by_cases hc : c = '\n'
    · subst hc
      rw [splitOn_cons_feed, List.length_cons, ih, List.count_cons_self]
    · rw [splitOn_cons_of_ne hc, List.length_modifyHead, ih, List.count_cons_of_ne hc]

/-- What stands before a line feed is split on its own. -/
theorem splitOn_append_feed (front rest : Text) :
    (front ++ '\n' :: rest).splitOn '\n' = front.splitOn '\n' ++ rest.splitOn '\n' := by
  simp only [List.splitOn_eq_splitOnP]
  exact List.splitOnP_append_cons front rest (beq_self_eq_true '\n')

theorem exists_splitOn_append {before : Text} (h : AtLineStart before) :
    ∃ ls : List Text, ls.length = before.count '\n' ∧
      ∀ rest : Text, (before ++ rest).splitOn '\n' = ls ++ rest.splitOn '\n' := by
  rcases h with rfl | hLast
  · exact ⟨[], rfl, fun rest => rfl⟩
  · obtain ⟨front, rfl⟩ := List.getLast?_eq_some_iff.mp hLast
    refine ⟨front.splitOn '\n', ?_, fun rest => ?_⟩
    · rw [length_splitOn, List.count_append, List.count_singleton_self]
    · rw [List.append_assoc, List.singleton_append, splitOn_append_feed]

/-- Characters put in front of a text become part of its first line. -/
theorem splitOn_append_of_not_mem {front : Text} (h : '\n' ∉ front) {t line : Text}
    {ls : List Text} (hLines : t.splitOn '\n' = line :: ls) :
    (front ++ t).splitOn '\n' = (front ++ line) :: ls := by
  induction front with
  | nil => exact hLines
  | cons c front ih =>
    rw [List.mem_cons, not_or] at h
    rw [List.cons_append, splitOn_cons_of_ne (Ne.symm h.1), ih h.2]
    rfl

theorem exists_splitOn_eq_cons (t : Text) : ∃ line ls, t.splitOn '\n' = line :: ls :=
  List.exists_cons_of_ne_nil (List.splitOn_ne_nil '\n' t)

/-- The first line has the same start as the text. -/
theorem prefix_splitOn_iff {front t line : Text} {ls : List Text} (h : '\n' ∉ front)
    (hLines : t.splitOn '\n' = line :: ls) : front <+: line ↔ front <+: t := by
  constructor
  · have hText : ['\n'].intercalate (t.splitOn '\n') = t := List.intercalate_splitOn '\n'
    rw [hLines] at hText
    rintro ⟨more, rfl⟩
    rw [← hText]
    cases ls with
    | nil => simp [List.intercalate]
    | cons l ls => simp [List.intercalate]
  · rintro ⟨rest, rfl⟩
    obtain ⟨line', ls', hRest⟩ := exists_splitOn_eq_cons rest
    rw [splitOn_append_of_not_mem h hRest] at hLines
    exact (List.cons.inj hLines).1 ▸ List.prefix_append front line'

/-- A text ends with a line feed if its last line is empty and not the only one. -/
theorem getLast?_eq_feed_iff (t : Text) : t.getLast? = some '\n' ↔
    1 < (t.splitOn '\n').length ∧ (t.splitOn '\n').getLast? = some [] := by
  obtain ⟨before, rest, ⟨rfl, hStart, -, hSingle⟩, -⟩ :=
    Formatting.exists_isLineSplit (Nat.le_refl t.length)
  rw [List.take_length, List.drop_left] at hSingle
  obtain ⟨ls, hLength, hLines⟩ := exists_splitOn_append hStart
  have hRest : rest.splitOn '\n' = [rest] := by
    rw [List.splitOn_eq_splitOnP]
    apply List.splitOnP_eq_singleton
    intro c hc
    exact beq_eq_false_iff_ne.mpr fun hFeed => hSingle (hFeed ▸ hc)
  rw [hLines, hRest, List.length_append, hLength, List.getLast?_concat, List.length_singleton,
    Option.some_inj]
  by_cases hNil : rest = []
  · subst hNil
    rw [List.append_nil]
    constructor
    · intro hLast
      have := List.count_pos_iff.mpr (List.mem_of_getLast? hLast)
      exact ⟨by omega, rfl⟩
    · rintro ⟨hFeeds, -⟩
      refine hStart.resolve_left ?_
      rintro rfl
      exact absurd hFeeds (by decide)
  · constructor
    · intro hLast
      rw [List.getLast?_append, List.getLast?_eq_some_getLast hNil, Option.some_or,
        ← List.getLast?_eq_some_getLast hNil] at hLast
      exact absurd (List.mem_of_getLast? hLast) hSingle
    · exact fun h => absurd h.2 hNil

/-- What becomes of the final line feed when one line is exchanged for another. -/
theorem getLast?_eq_feed_congr_iff {t t' line line' : Text} {ls rest : List Text}
    (h : t.splitOn '\n' = ls ++ line :: rest) (h' : t'.splitOn '\n' = ls ++ line' :: rest) :
    (t'.getLast? = some '\n' ↔ t.getLast? = some '\n') ↔
      (0 < ls.length → rest = [] → (line' = [] ↔ line = [])) := by
  rw [getLast?_eq_feed_iff, getLast?_eq_feed_iff, h, h']
  cases rest with
  | nil =>
    rw [List.getLast?_concat, List.getLast?_concat, List.length_append, List.length_append,
      List.length_singleton, List.length_singleton, Option.some_inj, Option.some_inj]
    have hPos : 1 < ls.length + 1 ↔ 0 < ls.length := Nat.lt_add_left_iff_pos
    rw [hPos]
    by_cases hMore : 0 < ls.length
    · simp [hMore]
    · simp [hMore]
  | cons l rest => simp

end Text

/-- The outcome is `t` with its line number `k` toggled: the marker is taken away from the
front of that line, or put there. -/
structure Outcome.TogglesLine (marker t : Text) (k : Nat) (line : Text) (o : Outcome) : Prop where
  isLine : (t.splitOn '\n')[k]? = some line
  removed : marker <+: line → o.applied = false ∧
    o.text.splitOn '\n' = (t.splitOn '\n').set k (line.drop marker.length)
  added : ¬ marker <+: line → o.applied = true ∧
    o.text.splitOn '\n' = (t.splitOn '\n').set k (marker ++ line)
  /-- Only a last line that was empty, or becomes so, adds or takes away a final line feed. -/
  finalFeed : (o.text.getLast? = some '\n' ↔ t.getLast? = some '\n') ↔
    ¬ (0 < k ∧ k + 1 = (t.splitOn '\n').length ∧ (line = [] ∨ line = marker))

namespace Formatting

theorem listMarker?_ne_nil {c : Command} {marker : Text} (h : c.listMarker? = some marker) :
    marker ≠ [] := by
  cases c <;> cases h <;> simp

theorem notLineFeed_of_listMarker? {c : Command} {marker : Text}
    (h : c.listMarker? = some marker) : ∀ a ∈ marker, notLineFeed a = true := by
  cases c <;> cases h <;> simp [notLineFeed]

theorem apply_of_listMarker? {c : Command} {marker : Text} (h : c.listMarker? = some marker)
    (t : Text) (s : Selection) : c.apply t s = toggleList marker t (s.clamp t) := by
  cases c <;> cases h <;> rfl

theorem togglesLine_toggleList {marker : Text} (hne : marker ≠ [])
    (hMarker : ∀ a ∈ marker, notLineFeed a = true) (t : Text) {s : Selection}
    (h : s.start ≤ t.length) : ∃ line,
    (toggleList marker t s).TogglesLine marker t ((t.take s.start).count '\n') line := by
  have hFeed : '\n' ∉ marker := fun hMem => absurd (hMarker _ hMem) (by decide)
  obtain ⟨before, rest, hSplit, hCases⟩ := toggleList_cases hMarker t h
  obtain ⟨ls, hLength, hLines⟩ := Text.exists_splitOn_append hSplit.start
  obtain ⟨line, others, hRest⟩ := Text.exists_splitOn_eq_cons rest
  -- the line feeds before the selection's start are those before its line
  have hCount : (t.take s.start).count '\n' = ls.length := by
    have hFront : (t.take s.start).take before.length = before := by
      rw [List.take_take, Nat.min_eq_left hSplit.le, hSplit.text, List.take_left]
    rw [← List.take_append_drop before.length (t.take s.start), hFront, List.count_append,
      List.count_eq_zero.mpr hSplit.single, hLength, Nat.add_zero]
  have hOld : t.splitOn '\n' = ls ++ line :: others := by rw [hSplit.text, hLines, hRest]
  have hSet (new : Text) : (t.splitOn '\n').set ls.length new = ls ++ new :: others := by
    rw [hOld, List.set_append_right ls.length new (Nat.le_refl _), Nat.sub_self, List.set_cons_zero]
  have hLast : ls.length + 1 = (t.splitOn '\n').length ↔ others = [] := by
    rw [hOld, List.length_append, List.length_cons, ← List.length_eq_zero_iff]
    omega
  have hPrefix := Text.prefix_splitOn_iff hFeed hRest
  have hFinal {t' new : Text} (hNew : t'.splitOn '\n' = ls ++ new :: others)
      (hEmpty : (new = [] ↔ line = []) ↔ ¬ (line = [] ∨ line = marker)) :
      (t'.getLast? = some '\n' ↔ t.getLast? = some '\n') ↔
        ¬ (0 < ls.length ∧ ls.length + 1 = (t.splitOn '\n').length ∧
          (line = [] ∨ line = marker)) := by
    rw [Text.getLast?_eq_feed_congr_iff hOld hNew, hLast, hEmpty]
    simp only [not_and]
  refine ⟨line, ?_⟩
  rw [hCount]
  rcases hCases with ⟨hFound, hOutcome⟩ | ⟨hMissing, hOutcome⟩
  · have hFront := hPrefix.mpr hFound
    obtain ⟨after, rfl⟩ := hFound
    obtain ⟨short, others', hAfter⟩ := Text.exists_splitOn_eq_cons after
    rw [Text.splitOn_append_of_not_mem hFeed hAfter] at hRest
    obtain ⟨rfl, rfl⟩ := List.cons.inj hRest
    have hText : (toggleList marker t s).text = before ++ after := by
      rw [hOutcome, hSplit.text, text_removed_front]
    have hNew : (toggleList marker t s).text.splitOn '\n' = ls ++ short :: others' := by
      rw [hText, hLines, hAfter]
    refine ⟨by simp [hOld], fun _ => ⟨by rw [hOutcome]; rfl, ?_⟩, fun h => absurd hFront h, ?_⟩
    · rw [hNew, hSet, List.drop_left]
    · exact hFinal hNew (by simp [hne])
  · have hFront : ¬ marker <+: line := mt hPrefix.mp hMissing
    have hText : (toggleList marker t s).text = before ++ (marker ++ rest) := by
      rw [hOutcome, hSplit.text, text_added_front]
    have hNew : (toggleList marker t s).text.splitOn '\n' = ls ++ (marker ++ line) :: others := by
      rw [hText, hLines, Text.splitOn_append_of_not_mem hFeed hRest]
    refine ⟨by simp [hOld], fun h => absurd h hFront, fun _ => ⟨by rw [hOutcome]; rfl, ?_⟩, ?_⟩
    · rw [hNew, hSet]
    · refine hFinal hNew ?_
      have hOther : line ≠ marker := by
        rintro rfl
        exact hFront List.prefix_rfl
      simp [hne, hOther]

end Formatting

/-- A list command toggles the line that the selection starts on and no other. The final line
feed stays as it is, unless that line is the last of several, and empty before or after. -/
theorem Command.togglesLine_apply {c : Command} {marker : Text}
    (hMarker : c.listMarker? = some marker) (t : Text) (raw : Selection) : ∃ line,
    (c.apply t raw).TogglesLine marker t ((t.take (raw.clamp t).start).count '\n') line := by
  have hInside := Nat.le_trans (raw.start_le_stop_clamp t) (raw.stop_clamp_le t)
  rw [Formatting.apply_of_listMarker? hMarker]
  exact Formatting.togglesLine_toggleList (Formatting.listMarker?_ne_nil hMarker)
    (Formatting.notLineFeed_of_listMarker? hMarker) t hInside

/-- A reversed selection from the second line to past the end. -/
theorem Command.togglesLine_apply_reversed :
    Command.orderedList.listMarker? = some ['1', '.', ' '] ∧ ∃ line,
    (Command.orderedList.apply "é\n1. 1. ∀\r\n".toList ⟨99, 4⟩).TogglesLine ['1', '.', ' ']
      "é\n1. 1. ∀\r\n".toList (("é\n1. 1. ∀\r\n".toList.take
        (Selection.clamp "é\n1. 1. ∀\r\n".toList ⟨99, 4⟩).start).count '\n') line :=
  ⟨rfl, Command.togglesLine_apply rfl _ ⟨99, 4⟩⟩

/-- At the end of a text, the marker comes after the final line feed. -/
theorem Command.finalFeed_lost :
    ¬ ((Command.unorderedList.apply ['a', '\n'] ⟨2, 2⟩).text.getLast? = some '\n' ↔
      (['a', '\n'] : Text).getLast? = some '\n') := by
  decide

end MarkdownEditor
