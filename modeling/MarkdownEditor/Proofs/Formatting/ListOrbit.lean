import MarkdownEditor.Proofs.Formatting.InlineOrbit
import MarkdownEditor.Proofs.Formatting.ListToggle

/-!
# List commands, again and again

Every application of a list command takes one marker away from the front of the line
that the selection starts on, as long as there is one. Once there is none, the command
puts one there and takes it away again, forever. The line stays the same one all along,
and the selection follows it; only an offset inside a marker that is taken away does not
come back to its place when the marker does.
-/

namespace MarkdownEditor

set_option autoImplicit false

namespace Selection

def moveRight (count : Nat) (s : Selection) : Selection := ⟨s.start + count, s.stop + count⟩

/-- Neither end passes `floor`. -/
def moveLeft (count floor : Nat) (s : Selection) : Selection :=
  ⟨max (s.start - count) floor, max (s.stop - count) floor⟩

variable {count floor : Nat} {s : Selection}

theorem moveLeft_zero (hStart : floor ≤ s.start) (hStop : floor ≤ s.stop) :
    s.moveLeft 0 floor = s := by
  rw [moveLeft, Nat.sub_zero, Nat.sub_zero, Nat.max_eq_left hStart, Nat.max_eq_left hStop]

theorem moveLeft_moveLeft (other : Nat) :
    (s.moveLeft count floor).moveLeft other floor = s.moveLeft (count + other) floor := by
  simp only [moveLeft, mk.injEq]
  omega

theorem moveLeft_moveRight (hStart : floor ≤ s.start) (hStop : floor ≤ s.stop) :
    (s.moveRight count).moveLeft count floor = s := by
  rw [moveLeft, moveRight, Nat.add_sub_cancel, Nat.add_sub_cancel, Nat.max_eq_left hStart,
    Nat.max_eq_left hStop]

end Selection

namespace Text

variable {t before rest front : Text} {n : Nat}

theorem isLineSplit_iff : (before ++ rest).IsLineSplit n before rest ↔
    AtLineStart before ∧ before.length ≤ n ∧ '\n' ∉ rest.take (n - before.length) := by
  have hSingle (h : before.length ≤ n) :
      ((before ++ rest).take n).drop before.length = rest.take (n - before.length) := by
    rw [List.take_append, List.take_of_length_le h, List.drop_left]
  constructor
  · intro h
    refine ⟨h.start, h.le, ?_⟩
    rw [← hSingle h.le]
    exact h.single
  · rintro ⟨hStart, hLe, hPlain⟩
    refine ⟨rfl, hStart, hLe, ?_⟩
    rw [hSingle hLe]
    exact hPlain

theorem IsLineSplit.length_le {before' rest' : Text} (h : t.IsLineSplit n before rest)
    (h' : t.IsLineSplit n before' rest') : before'.length ≤ before.length := by
  rcases h'.start with rfl | hLast
  · exact Nat.zero_le _
  obtain ⟨front, rfl⟩ := List.getLast?_eq_some_iff.mp hLast
  have hLe := h'.le
  rw [List.length_append, List.length_singleton] at hLe ⊢
  by_contra hMore
  -- the line feed before the later line would stand inside the earlier one
  apply h.single
  rw [h'.text, List.append_assoc, List.take_append, List.take_of_length_le (by omega),
    List.drop_append_of_le_length (by omega)]
  obtain ⟨m, hm⟩ : ∃ m, n - front.length = m + 1 := ⟨n - front.length - 1, by omega⟩
  simp [hm]

/-- The line that holds an offset starts at one place only. -/
theorem IsLineSplit.unique {before' rest' : Text} (h : t.IsLineSplit n before rest)
    (h' : t.IsLineSplit n before' rest') : before' = before ∧ rest' = rest := by
  have hLength := Nat.le_antisymm (h.length_le h') (h'.length_le h)
  exact List.append_inj (h'.text.symm.trans h.text) hLength

/-- What stands at the start of the line may go. -/
theorem IsLineSplit.removeFront (h : t.IsLineSplit n before (front ++ rest)) :
    (before ++ rest).IsLineSplit (max (n - front.length) before.length) before rest := by
  obtain rfl := h.text
  obtain ⟨hStart, hLe, hPlain⟩ := isLineSplit_iff.mp h
  refine isLineSplit_iff.mpr ⟨hStart, Nat.le_max_right _ _, ?_⟩
  have hCount : max (n - front.length) before.length - before.length =
      n - before.length - front.length := by omega
  rw [List.take_append, List.mem_append, not_or] at hPlain
  rw [hCount]
  exact hPlain.2

theorem IsLineSplit.addFront (hFront : '\n' ∉ front) (h : t.IsLineSplit n before rest) :
    (before ++ (front ++ rest)).IsLineSplit (n + front.length) before (front ++ rest) := by
  obtain rfl := h.text
  obtain ⟨hStart, hLe, hPlain⟩ := isLineSplit_iff.mp h
  refine isLineSplit_iff.mpr ⟨hStart, Nat.le_trans hLe (Nat.le_add_right _ _), ?_⟩
  have hCount : n + front.length - before.length - front.length = n - before.length := by omega
  rw [List.take_append, List.mem_append, not_or, hCount]
  exact ⟨fun hMem => hFront (List.mem_of_mem_take hMem), hPlain⟩

end Text

/-- The outcome leaves `s` selected, and `rest` begins with the line that holds the start
of `s`. -/
structure Outcome.IsAt (o : Outcome) (before rest : Text) (s : Selection) (applied : Bool) :
    Prop where
  split : o.text.IsLineSplit s.start before rest
  selection : o.selection = s
  start_le_stop : s.start ≤ s.stop
  stop_le : s.stop ≤ o.text.length
  applied : o.applied = applied

namespace Outcome.IsAt

variable {o : Outcome} {before rest : Text} {s : Selection} {applied : Bool}

theorem floor_le_stop (h : o.IsAt before rest s applied) : before.length ≤ s.stop :=
  Nat.le_trans h.split.le h.start_le_stop

end Outcome.IsAt

namespace Formatting

variable {c : Command} {marker before rest : Text} {o : Outcome} {s : Selection} {applied : Bool}

section Step

variable (hMarker : c.listMarker? = some marker)
include hMarker

/-- One step either takes the marker away from the start of the line or puts it there. -/
theorem isAt_andThen_cases (h : o.IsAt before rest s applied) :
    (∃ short, rest = marker ++ short ∧
      (o.andThen c).IsAt before short (s.moveLeft marker.length before.length) false) ∨
    (¬ marker <+: rest ∧
      (o.andThen c).IsAt before (marker ++ rest) (s.moveRight marker.length) true) := by
  have hClamp : s.clamp o.text = s := Selection.clamp_eq_self h.start_le_stop h.stop_le
  have hStep : o.andThen c = toggleList marker o.text s := by
    rw [Outcome.andThen, h.selection, apply_of_listMarker? hMarker, hClamp]
  have hPlain : '\n' ∉ marker :=
    fun hMem => absurd (notLineFeed_of_listMarker? hMarker _ hMem) (by decide)
  have hInside := h.stop_le
  have hOrder := h.start_le_stop
  obtain ⟨before', rest', hSplit, hCases⟩ := toggleList_cases
    (notLineFeed_of_listMarker? hMarker) o.text (Nat.le_trans hOrder hInside)
  obtain ⟨rfl, rfl⟩ := h.split.unique hSplit
  rw [hStep]
  rcases hCases with ⟨⟨short, rfl⟩, hOutcome⟩ | ⟨hBare, hOutcome⟩
  · left
    have hText : (toggleList marker o.text s).text = before' ++ short := by
      rw [hOutcome, h.split.text, text_removed_front]
    refine ⟨short, rfl, ?_, by rw [hOutcome]; rfl, ?_, ?_, by rw [hOutcome]; rfl⟩
    · rw [hText]
      exact h.split.removeFront
    · simp only [Selection.moveLeft]
      omega
    · rw [h.split.text] at hInside
      simp only [hText, Selection.moveLeft, List.length_append] at hInside ⊢
      omega
  · right
    have hText : (toggleList marker o.text s).text = before' ++ (marker ++ rest') := by
      rw [hOutcome, h.split.text, text_added_front]
    refine ⟨hBare, ?_, by rw [hOutcome]; rfl, ?_, ?_, by rw [hOutcome]; rfl⟩
    · rw [hText]
      exact h.split.addFront hPlain
    · exact Nat.add_le_add_right hOrder _
    · rw [h.split.text] at hInside
      simp only [hText, Selection.moveRight, List.length_append] at hInside ⊢
      omega

theorem isAt_andThen_marked (h : o.IsAt before (marker ++ rest) s applied) :
    (o.andThen c).IsAt before rest (s.moveLeft marker.length before.length) false := by
  rcases isAt_andThen_cases hMarker h with ⟨short, hRest, hNext⟩ | ⟨hBare, -⟩
  · rwa [List.append_cancel_left hRest]
  · exact absurd (List.prefix_append marker rest) hBare

theorem isAt_andThen_bare (hBare : ¬ marker <+: rest) (h : o.IsAt before rest s applied) :
    (o.andThen c).IsAt before (marker ++ rest) (s.moveRight marker.length) true := by
  rcases isAt_andThen_cases hMarker h with ⟨short, rfl, -⟩ | ⟨-, hNext⟩
  · exact absurd (List.prefix_append marker short) hBare
  · exact hNext

/-- A marker that was put there is taken away again. -/
theorem isAt_andThen_added (h : o.IsAt before rest s applied)
    (hAdded : (o.andThen c).applied = true) :
    ((o.andThen c).andThen c).IsAt before rest s false := by
  rcases isAt_andThen_cases hMarker h with ⟨short, -, hNext⟩ | ⟨-, hNext⟩
  · exact absurd (hNext.applied.symm.trans hAdded) Bool.false_ne_true
  · have hBack := isAt_andThen_marked hMarker hNext
    rwa [Selection.moveLeft_moveRight h.split.le h.floor_le_stop] at hBack

/-- A marker that was taken away is put there again. -/
theorem isAt_andThen_removed (h : o.IsAt before rest s applied)
    (hRemoved : (o.andThen c).applied = false)
    (hAdded : ((o.andThen c).andThen c).applied = true) :
    ((o.andThen c).andThen c).IsAt before rest
      ((s.moveLeft marker.length before.length).moveRight marker.length) true := by
  rcases isAt_andThen_cases hMarker h with ⟨short, rfl, hNext⟩ | ⟨-, hNext⟩
  · rcases isAt_andThen_cases hMarker hNext with ⟨shorter, -, hLast⟩ | ⟨-, hLast⟩
    · exact absurd (hLast.applied.symm.trans hAdded) Bool.false_ne_true
    · exact hLast
  · exact absurd (hRemoved.symm.trans hNext.applied) Bool.false_ne_true

end Step

end Formatting

/-- Where the offset `x` is once `size` characters from `start` on were taken away and put
back. -/
structure ComesBack (start size x x' : Nat) : Prop where
  eq_max : x' = max x (start + size)
  inside : x' ≠ x → start ≤ x ∧ x < start + size

/-- What the list commands with this marker make of `t` and its settled selection `s`. The
line that holds the start of `s` begins after `before`, with `depth` markers in a row, and
`orbit n` is the outcome after `n` of the commands. -/
structure IsListOrbit (marker t : Text) (s : Selection) (before rest : Text) (depth : Nat)
    (orbit : Nat → Outcome) : Prop where
  split : t.IsLineSplit s.start before rest
  greatest : IsGreatest {count | Text.copies count marker <+:
    rest.takeWhile Formatting.notLineFeed} depth
  peeled : ∀ n ≤ depth,
    (orbit n).text = before ++ rest.drop (n * marker.length) ∧
    (orbit n).selection = ⟨max (s.start - n * marker.length) before.length,
      max (s.stop - n * marker.length) before.length⟩ ∧
    (orbit n).applied = false
  bare : ∀ n, depth < n → (n - depth) % 2 = 0 →
    (orbit n).text = before ++ rest.drop (depth * marker.length) ∧ (orbit n).applied = false
  marked : ∀ n, depth < n → (n - depth) % 2 = 1 →
    (orbit n).text = before ++ (marker ++ rest.drop (depth * marker.length)) ∧
    (orbit n).applied = true
  restored : ∀ n, (orbit (n + 1)).applied = true →
    (orbit (n + 2)).text = (orbit n).text ∧ (orbit (n + 2)).selection = (orbit n).selection
  returned : ∀ n, (orbit (n + 1)).applied = false → (orbit (n + 2)).applied = true →
    (orbit (n + 2)).text = (orbit n).text ∧
    ComesBack before.length marker.length (orbit n).selection.start
      (orbit (n + 2)).selection.start ∧
    ComesBack before.length marker.length (orbit n).selection.stop
      (orbit (n + 2)).selection.stop

namespace Formatting

variable {c : Command} {marker before rest bare t : Text} {s : Selection} {depth : Nat}

theorem comesBack_of_le {start size x : Nat} (h : start ≤ x) :
    ComesBack start size x (max (x - size) start + size) where
  eq_max := by omega
  inside := by omega

/-- Every line begins with some number of markers, and the text after them with none. -/
theorem exists_copies (hMarker : c.listMarker? = some marker) (rest : Text) :
    ∃ depth bare, rest = Text.copies depth marker ++ bare ∧ ¬ marker <+: bare ∧
      IsGreatest {count | Text.copies count marker <+: rest.takeWhile notLineFeed} depth := by
  have hPlain (count : Nat) : ∀ a ∈ Text.copies count marker, notLineFeed a = true := by
    intro a ha
    obtain ⟨m, hm, haMarker⟩ := List.mem_flatten.mp ha
    rw [(List.mem_replicate.mp hm).2] at haMarker
    exact notLineFeed_of_listMarker? hMarker a haMarker
  obtain ⟨depth, hDepth⟩ := Text.exists_isGreatest_copies (listMarker?_ne_nil hMarker)
    (p := fun count => Text.copies count marker <+: rest.takeWhile notLineFeed)
    List.nil_prefix (fun count hCount => hCount.length_le)
  obtain ⟨bare, rfl⟩ := (prefix_takeWhile_iff (hPlain depth) rest).mp hDepth.1
  refine ⟨depth, bare, rfl, ?_, hDepth⟩
  rintro ⟨more, rfl⟩
  have hMore : Text.copies (depth + 1) marker <+: Text.copies depth marker ++ (marker ++ more) := by
    rw [Text.copies_add, Text.copies_one, ← List.append_assoc]
    exact List.prefix_append _ _
  have hLe : depth + 1 ≤ depth := hDepth.2 ((prefix_takeWhile_iff (hPlain _) _).mpr hMore)
  omega

section Run

variable (hMarker : c.listMarker? = some marker)
variable (hSplit : t.IsLineSplit s.start before (Text.copies depth marker ++ bare))
variable (hOrder : s.start ≤ s.stop) (hStop : s.stop ≤ t.length)
include hMarker hSplit hOrder hStop

theorem isAt_peeled {n : Nat} (h : n ≤ depth) :
    (c.applyTimes t s n).IsAt before (Text.copies (depth - n) marker ++ bare)
      (s.moveLeft (n * marker.length) before.length) false := by
  induction n with
  | zero =>
    rw [Nat.zero_mul, Selection.moveLeft_zero hSplit.le (Nat.le_trans hSplit.le hOrder)]
    exact ⟨hSplit, rfl, hOrder, hStop, rfl⟩
  | succ n ih =>
    have hBefore := ih (by omega)
    have hCopies : Text.copies (depth - n) marker ++ bare =
        marker ++ (Text.copies (depth - (n + 1)) marker ++ bare) := by
      have hCount : depth - n = 1 + (depth - (n + 1)) := by omega
      rw [hCount, Text.copies_add, Text.copies_one, List.append_assoc]
    rw [hCopies] at hBefore
    have hNext := isAt_andThen_marked hMarker hBefore
    rwa [Selection.moveLeft_moveLeft, ← Nat.succ_mul] at hNext

theorem isAt_alternating (hBare : ¬ marker <+: bare) (n : Nat) :
    (n % 2 = 0 → (c.applyTimes t s (depth + n)).IsAt before bare
      (s.moveLeft (depth * marker.length) before.length) false) ∧
    (n % 2 = 1 → (c.applyTimes t s (depth + n)).IsAt before (marker ++ bare)
      ((s.moveLeft (depth * marker.length) before.length).moveRight marker.length) true) := by
  induction n with
  | zero =>
    have hAll := isAt_peeled hMarker hSplit hOrder hStop (Nat.le_refl depth)
    rw [Nat.sub_self] at hAll
    exact ⟨fun _ => hAll, fun hOdd => absurd hOdd (by decide)⟩
  | succ n ih =>
    constructor
    · intro hEven
      have hBefore := ih.2 (by omega)
      have hNext := isAt_andThen_marked hMarker hBefore
      rwa [Selection.moveLeft_moveRight (Nat.le_max_right _ _) (Nat.le_max_right _ _)] at hNext
    · intro hOdd
      exact isAt_andThen_bare hMarker hBare (ih.1 (by omega))

/-- The line starts at the same place after every step. -/
theorem exists_isAt (n : Nat) :
    ∃ rest s' applied, (c.applyTimes t s n).IsAt before rest s' applied := by
  induction n with
  | zero => exact ⟨_, s, false, hSplit, rfl, hOrder, hStop, rfl⟩
  | succ n ih =>
    obtain ⟨rest, s', applied, hAt⟩ := ih
    rcases isAt_andThen_cases hMarker hAt with ⟨short, -, hNext⟩ | ⟨-, hNext⟩
    · exact ⟨short, _, false, hNext⟩
    · exact ⟨marker ++ rest, _, true, hNext⟩

theorem isListOrbit_of_bare (hBare : ¬ marker <+: bare)
    (hGreatest : IsGreatest {count | Text.copies count marker <+:
      (Text.copies depth marker ++ bare).takeWhile notLineFeed} depth) :
    IsListOrbit marker t s before (Text.copies depth marker ++ bare) depth
      (c.applyTimes t s) := by
  have hDrop (n : Nat) (hn : n ≤ depth) :
      (Text.copies depth marker ++ bare).drop (n * marker.length) =
        Text.copies (depth - n) marker ++ bare := by
    have hCopies : Text.copies depth marker =
        Text.copies n marker ++ Text.copies (depth - n) marker := by
      rw [← Text.copies_add, Nat.add_sub_cancel' hn]
    rw [hCopies, List.append_assoc, ← Text.length_copies, List.drop_left]
  have hDropAll : (Text.copies depth marker ++ bare).drop (depth * marker.length) = bare := by
    rw [hDrop depth (Nat.le_refl depth), Nat.sub_self]
    rfl
  constructor
  · exact hSplit
  · exact hGreatest
  · intro n hn
    have hAt := isAt_peeled hMarker hSplit hOrder hStop hn
    rw [hDrop n hn]
    exact ⟨hAt.split.text, hAt.selection, hAt.applied⟩
  · intro n hn hEven
    have hAt := (isAt_alternating hMarker hSplit hOrder hStop hBare (n - depth)).1 hEven
    rw [Nat.add_sub_cancel' (Nat.le_of_lt hn)] at hAt
    rw [hDropAll]
    exact ⟨hAt.split.text, hAt.applied⟩
  · intro n hn hOdd
    have hAt := (isAt_alternating hMarker hSplit hOrder hStop hBare (n - depth)).2 hOdd
    rw [Nat.add_sub_cancel' (Nat.le_of_lt hn)] at hAt
    rw [hDropAll]
    exact ⟨hAt.split.text, hAt.applied⟩
  · intro n hAdded
    obtain ⟨rest, s', applied, hAt⟩ := exists_isAt hMarker hSplit hOrder hStop n
    have hBack := isAt_andThen_added hMarker hAt hAdded
    exact ⟨hBack.split.text.trans hAt.split.text.symm, hBack.selection.trans hAt.selection.symm⟩
  · intro n hRemoved hAdded
    obtain ⟨rest, s', applied, hAt⟩ := exists_isAt hMarker hSplit hOrder hStop n
    have hBack := isAt_andThen_removed hMarker hAt hRemoved hAdded
    refine ⟨hBack.split.text.trans hAt.split.text.symm, ?_⟩
    change ComesBack _ _ _ ((c.applyTimes t s n).andThen c |>.andThen c).selection.start ∧
      ComesBack _ _ _ ((c.applyTimes t s n).andThen c |>.andThen c).selection.stop
    rw [hBack.selection, hAt.selection]
    exact ⟨comesBack_of_le hAt.split.le, comesBack_of_le hAt.floor_le_stop⟩

end Run

end Formatting

/-- The outcomes of a list command that is applied again and again. The first time settles
the selection; then the markers in front of its line are peeled off, and when none is left
the command puts one there and takes it away again. -/
theorem Command.applyTimes_list {c : Command} {marker : Text}
    (hMarker : c.listMarker? = some marker) (t : Text) (raw : Selection) :
    (∀ n, c.applyTimes t raw (n + 1) = c.applyTimes t (raw.clamp t) (n + 1)) ∧
    ∃ before rest depth, IsListOrbit marker t (raw.clamp t) before rest depth
      (c.applyTimes t (raw.clamp t)) := by
  have hOrder := raw.start_le_stop_clamp t
  have hStop := raw.stop_clamp_le t
  obtain ⟨before, rest, hSplit, -⟩ :=
    Formatting.exists_isLineSplit (Nat.le_trans hOrder hStop)
  obtain ⟨depth, bare, rfl, hBare, hGreatest⟩ := Formatting.exists_copies hMarker rest
  exact ⟨c.applyTimes_clamp t raw, before, _, depth,
    Formatting.isListOrbit_of_bare hMarker hSplit hOrder hStop hBare hGreatest⟩

/-- A reversed selection that starts inside the second of two markers and stops on the
next line. -/
theorem Command.applyTimes_list_twoMarkers :
    Command.unorderedList.listMarker? = some ['-', ' '] ∧
    (∀ n, Command.unorderedList.applyTimes "é\n- - ∀\nb".toList ⟨9, 5⟩ (n + 1) =
      Command.unorderedList.applyTimes "é\n- - ∀\nb".toList ⟨5, 9⟩ (n + 1)) ∧
    ∃ before rest depth, IsListOrbit ['-', ' '] "é\n- - ∀\nb".toList ⟨5, 9⟩ before rest depth
      (Command.unorderedList.applyTimes "é\n- - ∀\nb".toList ⟨5, 9⟩) :=
  ⟨rfl, Command.applyTimes_list rfl "é\n- - ∀\nb".toList ⟨9, 5⟩⟩

example : (List.range 5).map (fun n =>
    ((Command.unorderedList.applyTimes "- - a".toList ⟨3, 5⟩ n).text,
      (Command.unorderedList.applyTimes "- - a".toList ⟨3, 5⟩ n).selection)) =
    [("- - a".toList, ⟨3, 5⟩), ("- a".toList, ⟨1, 3⟩), ("a".toList, ⟨0, 1⟩),
      ("- a".toList, ⟨2, 3⟩), ("a".toList, ⟨0, 1⟩)] := by
  decide

end MarkdownEditor
