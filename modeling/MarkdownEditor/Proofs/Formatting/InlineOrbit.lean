import Mathlib.Data.Nat.SuccPred
import Mathlib.Order.SuccPred.Archimedean
import MarkdownEditor.Proofs.Formatting.Framed

/-!
# Inline commands, again and again

Every application of an inline command peels one marker off both sides of the
selection as long as there is one on both. Once there is none, the command puts
one there and takes it away again, forever.
-/

namespace MarkdownEditor

set_option autoImplicit false

/-- `count` times the marker. -/
def Text.copies (count : Nat) (marker : Text) : Text := (List.replicate count marker).flatten

namespace Text

variable (marker : Text) (count : Nat)

theorem copies_add (other : Nat) :
    copies (count + other) marker = copies count marker ++ copies other marker := by
  rw [copies, ← List.replicate_append_replicate, List.flatten_append]
  rfl

theorem copies_one : copies 1 marker = marker := by
  simp [copies]

theorem length_copies : (copies count marker).length = count * marker.length := by
  simp [copies]

variable {marker}

/-- Only so many copies fit into a text. -/
theorem exists_isGreatest_copies (hNonempty : marker ≠ []) {p : Nat → Prop} {size : Nat}
    (hZero : p 0) (hFits : ∀ count, p count → (copies count marker).length ≤ size) :
    ∃ depth, IsGreatest {count | p count} depth := by
  have hBound : BddAbove {count | p count} := by
    refine ⟨size, ?_⟩
    intro count hCount
    have hLength := hFits count hCount
    rw [length_copies] at hLength
    exact Nat.le_trans (Nat.le_mul_of_pos_right count (List.length_pos_iff.mpr hNonempty)) hLength
  exact hBound.exists_isGreatest_of_nonempty ⟨0, hZero⟩

end Text

/-- The outcome of the command on the text and the selection that `o` left. -/
def Outcome.andThen (o : Outcome) (c : Command) : Outcome := c.apply o.text o.selection

/-- The outcome of `count` applications of the command, each one to the text and the
selection that the one before left. -/
def Command.applyTimes (c : Command) (t : Text) (s : Selection) : Nat → Outcome
  | 0 => .unchanged t s
  | count + 1 => (c.applyTimes t s count).andThen c

theorem Command.apply_clamp (c : Command) (t : Text) (raw : Selection) :
    c.apply t (raw.clamp t) = c.apply t raw := by
  unfold Command.apply
  rw [Selection.clamp_clamp]

/-- The first time settles the selection. -/
theorem Command.applyTimes_clamp (c : Command) (t : Text) (raw : Selection) (n : Nat) :
    c.applyTimes t raw (n + 1) = c.applyTimes t (raw.clamp t) (n + 1) := by
  induction n with
  | zero => exact (c.apply_clamp t raw).symm
  | succ n ih => exact congrArg (Outcome.andThen · c) ih

/-- What the inline commands with this marker make of `t` and its settled selection `s`,
of which `depth` markers stand on both sides: `orbit n` is the outcome after `n` of them. -/
structure IsInlineOrbit (marker t : Text) (s : Selection) (depth : Nat)
    (orbit : Nat → Outcome) : Prop where
  greatest : IsGreatest {count | Text.copies count marker <:+ t.take s.start ∧
    Text.copies count marker <+: t.drop s.stop} depth
  peeled : ∀ n ≤ depth,
    (orbit n).text = t.take (s.start - n * marker.length) ++ s.selected t ++
      t.drop (s.stop + n * marker.length) ∧
    (orbit n).selection = ⟨s.start - n * marker.length, s.stop - n * marker.length⟩ ∧
    (orbit n).applied = false
  bare : ∀ n, depth < n → (n - depth) % 2 = 0 →
    (orbit n).text = (orbit depth).text ∧ (orbit n).selection = (orbit depth).selection ∧
    (orbit n).applied = false
  wrapped : ∀ n, depth < n → (n - depth) % 2 = 1 →
    (orbit n).text = (orbit depth).text.take (orbit depth).selection.start ++
      (marker ++ (orbit depth).selection.selected (orbit depth).text ++ marker) ++
      (orbit depth).text.drop (orbit depth).selection.stop ∧
    (orbit n).selection = ⟨(orbit depth).selection.start + marker.length,
      (orbit depth).selection.stop + marker.length⟩ ∧
    (orbit n).applied = true

namespace Framed

/-- The frame with `count` more markers on both sides. -/
def nest (marker : Text) (count : Nat) (f : Framed) : Framed :=
  ⟨f.before ++ Text.copies count marker, f.selected, Text.copies count marker ++ f.after⟩

variable {marker : Text} {f g : Framed}

theorem nest_zero (marker : Text) (g : Framed) : g.nest marker 0 = g := by
  simp [nest, Text.copies]

theorem nest_nest (marker : Text) (count other : Nat) (g : Framed) :
    (g.nest marker other).nest marker count = g.nest marker (other + count) := by
  refine Framed.ext ?_ rfl ?_
  · change g.before ++ Text.copies other marker ++ Text.copies count marker =
      g.before ++ Text.copies (other + count) marker
    rw [Text.copies_add, List.append_assoc]
  · change Text.copies count marker ++ (Text.copies other marker ++ g.after) =
      Text.copies (other + count) marker ++ g.after
    rw [Nat.add_comm, Text.copies_add, List.append_assoc]

theorem nest_one (marker : Text) (g : Framed) : g.nest marker 1 = g.wrap marker := by
  rw [nest, Text.copies_one]
  rfl

theorem exists_nest_iff (marker : Text) (count : Nat) (f : Framed) :
    (∃ g : Framed, f = g.nest marker count) ↔
      Text.copies count marker <:+ f.before ∧ Text.copies count marker <+: f.after := by
  constructor
  · rintro ⟨g, rfl⟩
    exact ⟨List.suffix_append _ _, List.prefix_append _ _⟩
  · rintro ⟨⟨before, hBefore⟩, ⟨after, hAfter⟩⟩
    exact ⟨⟨before, f.selected, after⟩, Framed.ext hBefore.symm rfl hAfter.symm⟩

/-- The frame with `count` characters less on both sides. -/
def shrink (count : Nat) (f : Framed) : Framed :=
  ⟨f.before.take (f.before.length - count), f.selected, f.after.drop count⟩

theorem shrink_nest (marker : Text) (count : Nat) (g : Framed) :
    (g.nest marker count).shrink (count * marker.length) = g := by
  rw [← Text.length_copies]
  refine Framed.ext ?_ rfl ?_
  · change (g.before ++ Text.copies count marker).take
      ((g.before ++ Text.copies count marker).length - (Text.copies count marker).length) = g.before
    rw [List.length_append, Nat.add_sub_cancel, List.take_left]
  · exact List.drop_left

theorem text_shrink (count : Nat) (f : Framed) : (f.shrink count).text =
    f.text.take (f.selection.start - count) ++ f.selection.selected f.text ++
      f.text.drop (f.selection.stop + count) := by
  have hBefore : f.text.take (f.selection.start - count) =
      f.before.take (f.before.length - count) := by
    rw [← f.take_text, List.take_take, f.take_text, f.selection_start,
      Nat.min_eq_left (Nat.sub_le _ _)]
  rw [hBefore, f.selected_text, ← List.drop_drop, f.drop_text]
  rfl

theorem selection_shrink {count : Nat} {f : Framed} (h : count ≤ f.before.length) :
    (f.shrink count).selection = ⟨f.selection.start - count, f.selection.stop - count⟩ := by
  simp only [selection, shrink, List.length_take, Selection.mk.injEq]
  omega

end Framed

namespace Formatting

variable {c : Command} {marker : Text} {f g : Framed}

theorem apply_of_inlineMarker? (hMarker : c.inlineMarker? = some marker) (t : Text)
    (s : Selection) : c.apply t s = toggleInline marker t (s.clamp t) := by
  unfold Command.apply
  rw [hMarker]

/-- What holds of all frames holds of all texts with a settled selection. -/
theorem apply_inline_of_framed (hMarker : c.inlineMarker? = some marker)
    {p : Text → Selection → Outcome → Prop}
    (h : ∀ f : Framed, p f.text f.selection (toggleInline marker f.text f.selection)) (t : Text)
    (raw : Selection) : p t (raw.clamp t) (c.apply t raw) := by
  have hFrame := h (Framed.cut t (raw.clamp t))
  have hOrdered := raw.start_le_stop_clamp t
  rwa [Framed.text_cut t hOrdered, Framed.selection_cut hOrdered (raw.stop_clamp_le t),
    ← apply_of_inlineMarker? hMarker] at hFrame

theorem andThen_of_shows (hMarker : c.inlineMarker? = some marker) {o : Outcome} {applied : Bool}
    (h : o.Shows f applied) : o.andThen c = toggleInline marker f.text f.selection := by
  rw [Outcome.andThen, h.text, h.selection, apply_of_inlineMarker? hMarker, f.clamp_selection]

/-- One step peels a marker off. -/
theorem shows_andThen_wrap (hMarker : c.inlineMarker? = some marker) {o : Outcome}
    {applied : Bool} (h : o.Shows (g.wrap marker) applied) : (o.andThen c).Shows g false := by
  rw [andThen_of_shows hMarker h]
  exact toggleInline_wrap g

/-- Without a marker to peel off, one step puts one there. -/
theorem shows_andThen_bare (hMarker : c.inlineMarker? = some marker) {o : Outcome}
    {applied : Bool} (hBare : ¬ ∃ h : Framed, g = h.wrap marker) (h : o.Shows g applied) :
    (o.andThen c).Shows (g.wrap marker) true := by
  rw [andThen_of_shows hMarker h]
  exact toggleInline_of_not_wrapped hBare

theorem shows_peeled (hMarker : c.inlineMarker? = some marker) (g : Framed) {depth n : Nat}
    (h : n ≤ depth) :
    (c.applyTimes (g.nest marker depth).text (g.nest marker depth).selection n).Shows
      (g.nest marker (depth - n)) false := by
  induction n with
  | zero => exact ⟨rfl, rfl, rfl⟩
  | succ n ih =>
    have hStep : g.nest marker (depth - n) = (g.nest marker (depth - (n + 1))).wrap marker := by
      rw [← Framed.nest_one, Framed.nest_nest]
      congr 1
      omega
    have hBefore := ih (by omega)
    rw [hStep] at hBefore
    exact shows_andThen_wrap hMarker hBefore

theorem shows_alternating (hMarker : c.inlineMarker? = some marker)
    (hBare : ¬ ∃ h : Framed, g = h.wrap marker) (depth n : Nat) :
    ((n % 2 = 0 → (c.applyTimes (g.nest marker depth).text
        (g.nest marker depth).selection (depth + n)).Shows g false) ∧
      (n % 2 = 1 → (c.applyTimes (g.nest marker depth).text
        (g.nest marker depth).selection (depth + n)).Shows (g.wrap marker) true)) := by
  induction n with
  | zero =>
    have hAll := shows_peeled hMarker g (Nat.le_refl depth)
    rw [Nat.sub_self, Framed.nest_zero] at hAll
    exact ⟨fun _ => hAll, fun hOdd => absurd hOdd (by decide)⟩
  | succ n ih =>
    constructor
    · intro hEven
      exact shows_andThen_wrap hMarker (ih.2 (by omega))
    · intro hOdd
      exact shows_andThen_bare hMarker hBare (ih.1 (by omega))

/-- Every frame has a bare one inside as many markers as both sides share. -/
theorem exists_bare (hNonempty : marker ≠ []) (f : Framed) : ∃ depth g, f = g.nest marker depth ∧
    (¬ ∃ h : Framed, g = h.wrap marker) ∧
    IsGreatest {count | Text.copies count marker <:+ f.before ∧
      Text.copies count marker <+: f.after} depth := by
  obtain ⟨depth, hDepth⟩ := Text.exists_isGreatest_copies hNonempty
    (p := fun count => Text.copies count marker <:+ f.before ∧
      Text.copies count marker <+: f.after)
    ⟨List.nil_suffix, List.nil_prefix⟩ (fun count hCount => hCount.1.length_le)
  obtain ⟨g, hg⟩ := (Framed.exists_nest_iff marker depth f).mpr hDepth.1
  refine ⟨depth, g, hg, ?_, hDepth⟩
  rintro ⟨h, rfl⟩
  rw [← Framed.nest_one, Framed.nest_nest] at hg
  have hMore : 1 + depth ≤ depth := hDepth.2 ((Framed.exists_nest_iff marker _ f).mp ⟨h, hg⟩)
  omega

theorem isInlineOrbit_of_bare (hMarker : c.inlineMarker? = some marker) {depth : Nat}
    (hf : f = g.nest marker depth) (hBare : ¬ ∃ h : Framed, g = h.wrap marker)
    (hGreatest : IsGreatest {count | Text.copies count marker <:+ f.before ∧
      Text.copies count marker <+: f.after} depth) :
    IsInlineOrbit marker f.text f.selection depth (c.applyTimes f.text f.selection) := by
  have hAll : (c.applyTimes f.text f.selection depth).Shows g false := by
    have h := (shows_alternating hMarker hBare depth 0).1 rfl
    rwa [← hf] at h
  constructor
  · rwa [f.take_text, f.drop_text]
  · intro n hn
    have hShows := shows_peeled hMarker g hn
    have hShrink : f.shrink (n * marker.length) = g.nest marker (depth - n) := by
      have hNest : f = (g.nest marker (depth - n)).nest marker n := by
        rw [hf, Framed.nest_nest, Nat.sub_add_cancel hn]
      rw [hNest, Framed.shrink_nest]
    have hLength : n * marker.length ≤ f.before.length := by
      rw [hf, Framed.nest, List.length_append, Text.length_copies]
      exact Nat.le_trans (Nat.mul_le_mul_right _ hn) (Nat.le_add_left _ _)
    rw [← hShrink, ← hf] at hShows
    exact ⟨hShows.text.trans (Framed.text_shrink _ f),
      hShows.selection.trans (Framed.selection_shrink hLength), hShows.applied⟩
  · intro n hn hEven
    have hShows := (shows_alternating hMarker hBare depth (n - depth)).1 hEven
    rw [← hf, Nat.add_sub_cancel' (Nat.le_of_lt hn)] at hShows
    exact ⟨hShows.text.trans hAll.text.symm, hShows.selection.trans hAll.selection.symm,
      hShows.applied⟩
  · intro n hn hOdd
    have hShows := (shows_alternating hMarker hBare depth (n - depth)).2 hOdd
    rw [← hf, Nat.add_sub_cancel' (Nat.le_of_lt hn)] at hShows
    rw [hAll.text, hAll.selection, g.take_text, g.selected_text, g.drop_text]
    refine ⟨?_, hShows.selection.trans (g.selection_wrap marker), hShows.applied⟩
    rw [hShows.text, ← g.text_mark]
    rfl

theorem inlineMarker?_ne_nil (hMarker : c.inlineMarker? = some marker) : marker ≠ [] := by
  cases c <;> cases hMarker <;> simp

/-- The outcomes of an inline command that is applied again and again. The first time
settles the selection; then the markers on both sides are peeled off, and when none is
left the command puts one there and takes it away again. -/
theorem applyTimes_inline (hMarker : c.inlineMarker? = some marker) (t : Text) (raw : Selection) :
    (∀ n, c.applyTimes t raw (n + 1) = c.applyTimes t (raw.clamp t) (n + 1)) ∧
    (∃ depth, IsInlineOrbit marker t (raw.clamp t) depth (c.applyTimes t (raw.clamp t))) ∧
    ((c.apply t raw).applied = true → (c.applyTimes t raw 2).text = t ∧
      (c.applyTimes t raw 2).selection = raw.clamp t) := by
  have hOrdered := raw.start_le_stop_clamp t
  have hText := Framed.text_cut t hOrdered
  have hSelection := Framed.selection_cut hOrdered (raw.stop_clamp_le t)
  obtain ⟨depth, g, hf, hBare, hGreatest⟩ :=
    exists_bare (inlineMarker?_ne_nil hMarker) (Framed.cut t (raw.clamp t))
  have hOrbit := isInlineOrbit_of_bare hMarker hf hBare hGreatest
  rw [hText, hSelection] at hOrbit
  refine ⟨c.applyTimes_clamp t raw, ⟨depth, hOrbit⟩, ?_⟩
  intro hApplied
  rw [c.applyTimes_clamp]
  change (c.applyTimes t raw 1).applied = true at hApplied
  rw [c.applyTimes_clamp] at hApplied
  -- a step that added markup found no marker to peel off
  have hDepth : depth = 0 := by
    by_cases hPos : 1 ≤ depth
    · rw [(hOrbit.peeled 1 hPos).2.2] at hApplied
      cases hApplied
    · omega
  subst hDepth
  obtain ⟨hBack, hBackSelection, -⟩ := hOrbit.bare 2 (by omega) rfl
  exact ⟨hBack, hBackSelection⟩

/-- A reversed selection with three stars before it and two after it. -/
theorem applyTimes_inline_stars :
    Command.bold.inlineMarker? = some ['*', '*'] ∧
    (∀ n, Command.bold.applyTimes "***a**".toList ⟨4, 3⟩ (n + 1) =
      Command.bold.applyTimes "***a**".toList ⟨3, 4⟩ (n + 1)) ∧
    (∃ depth, IsInlineOrbit ['*', '*'] "***a**".toList ⟨3, 4⟩ depth
      (Command.bold.applyTimes "***a**".toList ⟨3, 4⟩)) ∧
    ((Command.bold.apply "***a**".toList ⟨4, 3⟩).applied = true →
      (Command.bold.applyTimes "***a**".toList ⟨4, 3⟩ 2).text = "***a**".toList ∧
      (Command.bold.applyTimes "***a**".toList ⟨4, 3⟩ 2).selection = ⟨3, 4⟩) :=
  ⟨rfl, applyTimes_inline rfl "***a**".toList ⟨4, 3⟩⟩

example : (List.range 5).map (fun n => (Command.italic.applyTimes "**b*".toList ⟨2, 3⟩ n).text) =
    ["**b*".toList, "*b".toList, "**b*".toList, "*b".toList, "**b*".toList] := by decide

end Formatting

end MarkdownEditor
