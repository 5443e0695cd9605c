import MarkdownEditor.Proofs.Formatting.InlineOrbit
import MarkdownEditor.Proofs.Formatting.Stretch

/-!
# What an outcome promises

Whatever the text, the selection and the command, the parts of an outcome fit
together: its selection lies in its text, its edit lies in the old text and leads
from there to the new one, and no text is lost but the markers that a command takes
away. Commands in a row keep all of this, so replaying their edits on the first
text gives the last one.
-/

namespace MarkdownEditor

set_option autoImplicit false

/-- `t'` is `t` without the markers that the command puts at the selection `s`. -/
inductive Command.Removes (c : Command) (t : Text) (s : Selection) (t' : Text) : Prop where
  /-- The markers next to the two ends of the selection. -/
  | inline {marker : Text} (g : Framed) (hMarker : c.inlineMarker? = some marker)
    (hText : (g.wrap marker).text = t) (hSelection : (g.wrap marker).selection = s)
    (hNew : g.text = t')
  /-- The marker at the start of the line that holds the selection's start. -/
  | list {marker before rest : Text} (hMarker : c.listMarker? = some marker)
    (hSplit : t.IsLineSplit s.start before (marker ++ rest)) (hNew : before ++ rest = t')

/-- What the outcome of the command on `t` promises, `s` being the settled selection. -/
structure Outcome.IsConsistent (c : Command) (t : Text) (s : Selection) (o : Outcome) : Prop where
  start_le_stop : o.selection.start ≤ o.selection.stop
  stop_le : o.selection.stop ≤ o.text.length
  edit_eq_none_iff : o.edit = none ↔ c = .undo
  text_eq_iff : o.text = t ↔ o.edit = none
  edit : ∀ e, o.edit = some e → e.range.start ≤ e.range.stop ∧ e.range.stop ≤ t.length ∧
    t.take e.range.start ++ e.insert ++ t.drop e.range.stop = o.text
  kept : o.applied = true → t.Sublist o.text
  lost : o.applied = false → o.text ≠ t → c.Removes t s o.text

namespace Outcome

variable {c : Command} {f : Framed} {insert : Text} {s s' : Selection} {o : Outcome}

theorem isConsistent_of_replaces (hCommand : c ≠ .undo)
    (hEdit : o.edit = some ⟨f.selection, insert⟩) (hText : o.text = f.before ++ insert ++ f.after)
    (hLength : insert.length ≠ f.selected.length)
    (hOrder : o.selection.start ≤ o.selection.stop)
    (hStop : o.selection.stop + f.selected.length ≤ f.text.length + insert.length)
    (hKept : o.applied = true → f.selected.Sublist insert)
    (hLost : o.applied = false → c.Removes f.text s o.text) : o.IsConsistent c f.text s where
  start_le_stop := hOrder
  stop_le := by
    have hNew : o.text.length + f.selected.length = f.text.length + insert.length := by
      simp only [hText, Framed.text, List.length_append]
      omega
    omega
  edit_eq_none_iff := by simp [hEdit, hCommand]
  text_eq_iff := by
    have hNe : o.text ≠ f.text := by
      intro h
      have hEq := congrArg List.length (hText.symm.trans h)
      simp only [Framed.text, List.length_append] at hEq
      omega
    simp [hEdit, hNe]
  edit := by
    intro e he
    obtain rfl := Option.some.inj (hEdit.symm.trans he)
    exact ⟨f.start_le_stop_selection, f.stop_selection_le,
      (f.apply_selection insert).trans hText.symm⟩
  kept := by
    intro hApplied
    rw [hText]
    exact ((hKept hApplied).append_left f.before).append (List.Sublist.refl f.after)
  lost := fun hApplied _ => hLost hApplied

theorem isConsistent_added (hCommand : c ≠ .undo) (hKept : f.selected.Sublist insert)
    (hLonger : f.selected.length < insert.length) (hOrder : s'.start ≤ s'.stop)
    (hStop : s'.stop + f.selected.length ≤ f.text.length + insert.length) :
    (added f.text ⟨f.selection, insert⟩ s').IsConsistent c f.text s :=
  isConsistent_of_replaces hCommand rfl (f.apply_selection insert) hLonger.ne' hOrder hStop
    (fun _ => hKept) (fun hApplied => absurd hApplied.symm Bool.false_ne_true)

theorem isConsistent_removed (hCommand : c ≠ .undo)
    (hLost : c.Removes f.text s (f.before ++ insert ++ f.after))
    (hShorter : insert.length < f.selected.length) (hOrder : s'.start ≤ s'.stop)
    (hStop : s'.stop + f.selected.length ≤ f.text.length + insert.length) :
    (removed f.text ⟨f.selection, insert⟩ s').IsConsistent c f.text s := by
  have hText := f.apply_selection insert
  rw [← hText] at hLost
  exact isConsistent_of_replaces hCommand rfl hText hShorter.ne hOrder hStop
    (fun hApplied => absurd hApplied Bool.false_ne_true) (fun _ => hLost)

theorem isConsistent_toggleInline {marker : Text} (hMarker : c.inlineMarker? = some marker)
    (f : Framed) :
    (Formatting.toggleInline marker f.text f.selection).IsConsistent c f.text f.selection := by
  have hCommand : c ≠ .undo := by
    rintro rfl
    cases hMarker
  have hLength : 0 < marker.length :=
    List.length_pos_iff.mpr (Formatting.inlineMarker?_ne_nil hMarker)
  by_cases hWrapped : ∃ g : Framed, f = g.wrap marker
  · obtain ⟨g, rfl⟩ := hWrapped
    rw [Formatting.toggleInline_wrap_eq_removed, ← g.text_mark]
    refine isConsistent_removed hCommand (.inline g hMarker (g.text_mark marker).symm rfl rfl)
      ?_ g.start_le_stop_selection ?_
    · simp only [Framed.mark, List.length_append]
      omega
    · simp only [Framed.text, Framed.mark, List.length_append, Framed.selection]
      omega
  · rw [Formatting.toggleInline_eq_added hWrapped]
    refine isConsistent_added hCommand ?_ ?_ (f.wrap marker).start_le_stop_selection ?_
    · exact (List.sublist_append_right marker f.selected).trans (List.sublist_append_left _ marker)
    · simp only [List.length_append]
      omega
    · simp only [Framed.text, Framed.wrap, List.length_append, Framed.selection]
      omega

theorem isConsistent_toggleList {marker : Text} (hMarker : c.listMarker? = some marker) (t : Text)
    (hOrder : s.start ≤ s.stop) (hStop : s.stop ≤ t.length) :
    (Formatting.toggleList marker t s).IsConsistent c t s := by
  have hCommand : c ≠ .undo := by
    rintro rfl
    cases hMarker
  have hLength : 0 < marker.length := by
    cases c <;> cases hMarker <;> simp
  have hSingle : ∀ a ∈ marker, Formatting.notLineFeed a = true := by
    cases c <;> cases hMarker <;> simp [Formatting.notLineFeed]
  obtain ⟨before, rest, hSplit, hCases⟩ :=
    Formatting.toggleList_cases hSingle t (Nat.le_trans hOrder hStop)
  rcases hCases with ⟨⟨after, rfl⟩, hOutcome⟩ | ⟨-, hOutcome⟩
  · have hText : t = (⟨before, marker, after⟩ : Framed).text := by
      rw [hSplit.text, Framed.text, List.append_assoc]
    have hInside := Framed.stop_selection_le ⟨before, marker, after⟩
    rw [hOutcome]
    subst hText
    refine isConsistent_removed hCommand (.list hMarker hSplit (by rw [List.append_nil])) hLength
      ?_ ?_
    · simp only
      omega
    · simp only [Framed.selection_stop] at hInside ⊢
      omega
  · have hText : t = (⟨before, [], rest⟩ : Framed).text := by
      rw [hSplit.text, Framed.text, List.append_nil]
    rw [hOutcome]
    subst hText
    exact isConsistent_added hCommand (List.nil_sublist marker) hLength
      (Nat.add_le_add_right hOrder _) (Nat.add_le_add_right hStop _)

theorem isConsistent_insertLink (t : Text) (hOrder : s.start ≤ s.stop) (hStop : s.stop ≤ t.length) :
    (Formatting.insertLink t s).IsConsistent .link t s := by
  have hRange := Formatting.start_le_stop_linkRange t hOrder
  have hInside := Formatting.stop_linkRange_le t hOrder hStop
  obtain ⟨f, hText, hSelection⟩ : ∃ f : Framed, f.text = t ∧
      f.selection = Formatting.linkRange t s :=
    ⟨Framed.cut t (Formatting.linkRange t s), Framed.text_cut t hRange,
      Framed.selection_cut hRange hInside⟩
  rw [Formatting.insertLink_eq, ← hSelection]
  subst hText
  have hLabel := Formatting.sublist_linkLabel f.selected
  have hLonger := hLabel.length_le
  have hFits := f.stop_selection_le
  rw [f.selected_text]
  refine isConsistent_added (by decide) ?_ ?_ (Nat.le_add_right _ _) ?_
  · rw [List.append_assoc, List.append_assoc]
    exact hLabel.trans ((List.sublist_append_right ['['] _).trans (List.sublist_append_left _ _))
  · simp only [List.length_append, List.length_cons]
    omega
  · simp only [List.length_append, List.length_cons, List.length_nil, Framed.selection_start,
      Framed.selection_stop] at hFits ⊢
    omega

theorem isConsistent_unchanged (t : Text) (hOrder : s.start ≤ s.stop) (hStop : s.stop ≤ t.length) :
    (unchanged t s).IsConsistent .undo t s where
  start_le_stop := hOrder
  stop_le := hStop
  edit_eq_none_iff := iff_of_true rfl rfl
  text_eq_iff := iff_of_true rfl rfl
  edit := nofun
  kept := nofun
  lost := fun _ hNe => absurd rfl hNe

end Outcome

theorem Command.isConsistent_apply (c : Command) (t : Text) (raw : Selection) :
    (c.apply t raw).IsConsistent c t (raw.clamp t) := by
  have hOrder := raw.start_le_stop_clamp t
  have hStop := raw.stop_clamp_le t
  have hInline {c : Command} {marker : Text} (hMarker : c.inlineMarker? = some marker) :
      (c.apply t raw).IsConsistent c t (raw.clamp t) :=
    Formatting.apply_inline_of_framed hMarker (Outcome.isConsistent_toggleInline hMarker) t raw
  cases c with
  | bold => exact hInline rfl
  | italic => exact hInline rfl
  | inlineCode => exact hInline rfl
  | link => exact Outcome.isConsistent_insertLink t hOrder hStop
  | orderedList => exact Outcome.isConsistent_toggleList rfl t hOrder hStop
  | unorderedList => exact Outcome.isConsistent_toggleList rfl t hOrder hStop
  | undo => exact Outcome.isConsistent_unchanged t hOrder hStop

namespace Command

/-- The outcome of the last of the commands, each one applied to the text and the selection
that the one before left. -/
def applyAll (t : Text) (s : Selection) (cs : List Command) : Outcome :=
  cs.foldl Outcome.andThen (.unchanged t s)

/-- The edits of the outcomes of the commands after `o`, in order. -/
def editsAfter (o : Outcome) : List Command → List Edit
  | [] => []
  | c :: cs => (o.andThen c).edit.toList ++ editsAfter (o.andThen c) cs

theorem applyAll_concat (t : Text) (s : Selection) (cs : List Command) (c : Command) :
    applyAll t s (cs ++ [c]) = (applyAll t s cs).andThen c := by
  rw [applyAll, List.foldl_append]
  rfl

theorem foldl_edit_andThen (o : Outcome) (c : Command) :
    (o.andThen c).edit.toList.foldl (fun t e => e.apply t) o.text = (o.andThen c).text := by
  have hConsistent := c.isConsistent_apply o.text o.selection
  cases hEdit : (o.andThen c).edit with
  | none => exact (hConsistent.text_eq_iff.mpr hEdit).symm
  | some e => exact (hConsistent.edit e hEdit).2.2

theorem foldl_editsAfter (o : Outcome) (cs : List Command) :
    (editsAfter o cs).foldl (fun t e => e.apply t) o.text = (cs.foldl Outcome.andThen o).text := by
  induction cs generalizing o with
  | nil => rfl
  | cons c cs ih => rw [editsAfter, List.foldl_append, foldl_edit_andThen, ih, List.foldl_cons]

/-- Every outcome of commands in a row is consistent with the text and the selection that
its command was applied to, and replaying the edits leads from the first text to the last. -/
theorem isConsistent_applyAll (t : Text) (raw : Selection) (cs : List Command) :
    (∀ n (h : n < cs.length),
      (applyAll t raw (cs.take (n + 1))).IsConsistent cs[n] (applyAll t raw (cs.take n)).text
        ((applyAll t raw (cs.take n)).selection.clamp (applyAll t raw (cs.take n)).text)) ∧
    (editsAfter (.unchanged t raw) cs).foldl (fun t e => e.apply t) t =
      (applyAll t raw cs).text := by
  constructor
  · intro n h
    rw [← List.take_append_getElem h, applyAll_concat]
    exact cs[n].isConsistent_apply _ _
  · exact foldl_editsAfter (.unchanged t raw) cs

end Command

end MarkdownEditor
