import MarkdownEditor.Editor.Buffer
import MarkdownEditor.Formatting
import MarkdownEditor.Proofs.Formatting.Stretch
import MarkdownEditor.Proofs.Machine.Step

/-!
# Commands on a machine

Every command and the replay of its edit, written out in the steps that a machine takes. In a
text of up to a quarter of the range of a word none of them traps, whatever the selection.
-/

namespace MarkdownEditor.Machine

set_option autoImplicit false

open Formatting

/-- The outcome of an edit that adds markup. The new text is allocated before it is put
together. -/
def edited (t : Text) (e : Edit) (s : Selection) : Except Trap Outcome := do
  let _ ← add t.byteSize e.insert.byteSize
  let before ← cut t 0 (t.byteOffset e.range.start)
  let after ← cut t (t.byteOffset e.range.stop) t.byteSize
  return ⟨before ++ e.insert ++ after, s, some e, true⟩

/-- The outcome of an edit that takes markup away. -/
def toggledOff (t : Text) (e : Edit) (s : Selection) : Except Trap Outcome := do
  let o ← edited t e s
  return { o with applied := false }

/-- Later questions are asked only if the earlier ones were answered with yes. -/
def isWrapped (marker t : Text) (s : Selection) : Except Trap Bool := do
  if s.start < marker.length then return false
  if t.length < (← add s.stop marker.length) then return false
  if (← charSlice t (← sub s.start marker.length) s.start) ≠ marker then return false
  return (← charSlice t s.stop (← add s.stop marker.length)) == marker

def toggleInline (marker t : Text) (s : Selection) : Except Trap Outcome := do
  let wrapped ← isWrapped marker t s
  let selected ← charSlice t s.start s.stop
  if wrapped then
    let range := Selection.between (← sub s.start marker.length) (← add s.stop marker.length)
    let selection := Selection.between (← sub s.start marker.length) (← sub s.stop marker.length)
    toggledOff t ⟨range, selected⟩ selection
  else
    let selection := Selection.between (← add s.start marker.length) (← add s.stop marker.length)
    edited t ⟨s, marker ++ selected ++ marker⟩ selection

/-- Where the line that holds the offset starts. -/
def lineStart (t : Text) (n : Nat) : Except Trap Nat := do
  match rfind? '\n' (← cut t 0 (t.byteOffset n)) with
  | some b => return t.charOffset (← add b 1)
  | none => return t.charOffset 0

/-- Where the line that holds the offset stops. -/
def lineStop (t : Text) (n : Nat) : Except Trap Nat := do
  match find? '\n' (← cut t (t.byteOffset n) t.byteSize) with
  | some b => return t.charOffset (← add (t.byteOffset n) b)
  | none => return t.charOffset t.byteSize

/-- Only the shift of the selection may go below zero, where it stops. -/
def toggleList (marker t : Text) (s : Selection) : Except Trap Outcome := do
  let start ← lineStart t s.start
  let stop ← lineStop t s.start
  let line ← charSlice t start stop
  if marker.isPrefixOf line then
    let range := Selection.between start (← add start marker.length)
    let shift (offset : Nat) := max (offset - marker.length) start
    toggledOff t ⟨range, []⟩ (.between (shift s.start) (shift s.stop))
  else
    let selection := Selection.between (← add s.start marker.length) (← add s.stop marker.length)
    edited t ⟨.caret start, marker⟩ selection

/-- Runs back from the offset to the start of the word. -/
def wordStart (t : Text) : Nat → Except Trap Nat
  | 0 => .ok 0
  | n + 1 => do
    let c ← charAt t (← sub (n + 1) 1)
    if isLinkWordChar c then
      let _ ← sub (n + 1) 1
      wordStart t n
    else return n + 1

/-- Runs on from the offset to the end of the word. -/
def wordStop (t : Text) (n : Nat) : Except Trap Nat :=
  if n < t.length then do
    let c ← charAt t n
    if isLinkWordChar c then
      let _ ← add n 1
      wordStop t (n + 1)
    else return n
  else .ok n
termination_by t.length - n

def wordAt (t : Text) (n : Nat) : Except Trap Selection := do
  let start ← wordStart t n
  let stop ← wordStop t n
  return .between start stop

def linkRange (t : Text) (s : Selection) : Except Trap Selection :=
  if s.isCaret then wordAt t s.start else .ok s

def insertLink (t : Text) (s : Selection) : Except Trap Outcome := do
  let range ← linkRange t s
  let label := linkLabel (← charSlice t range.start range.stop)
  let address ← add (← add range.start label.length) 3
  let selection := Selection.between address (← add address addressPlaceholder.length)
  edited t ⟨range, ['['] ++ label ++ [']', '('] ++ addressPlaceholder ++ [')']⟩ selection

def apply (c : Command) (t : Text) (raw : Selection) : Except Trap Outcome :=
  let s := raw.clamp t
  match c.inlineMarker?, c.listMarker? with
  | some marker, _ => toggleInline marker t s
  | none, some marker => toggleList marker t s
  | none, none =>
    match c with
    | .link => insertLink t s
    | _ => .ok (.unchanged t s)

/-- The undo history after `t` was recorded. -/
def record (limit : Nat) (t : Text) (history : List Text) : Except Trap (List Text) :=
  if (t :: history).length > limit then removeLast (t :: history) else .ok (t :: history)

def replaceRange (b : TextBuffer) (range : Selection) (insert : Text) : Except Trap TextBuffer := do
  let range := Selection.between range.start range.stop
  let start := b.content.byteOffset (b.content.clampOffset range.start)
  let stop := b.content.byteOffset (b.content.clampOffset range.stop)
  if start = stop ∧ insert = [] then return b
  let undoStack ← record b.limit b.content b.undoStack
  let content ← splice b.content start stop insert
  return { b with content, undoStack, redoStack := [] }

section

variable {t marker : Text} {s : Selection} {e : Edit} {n : Nat}

theorem wordStart_eq_ok (h : n ≤ t.length) :
    wordStart t n = .ok (n - runBefore isLinkWordChar t n) := by
  induction n with
  | zero => rfl
  | succ n ih =>
    have hRun : runBefore isLinkWordChar t (n + 1) =
        if isLinkWordChar t[n] then runBefore isLinkWordChar t n + 1 else 0 := by
      rw [runBefore, List.take_succ_eq_append_getElem h, List.reverse_append, List.reverse_singleton,
        List.singleton_append, List.takeWhile_cons]
      split <;> rfl
    rw [wordStart, sub_eq_ok (Nat.le_add_left 1 n), ok_bind, Nat.add_sub_cancel, charAt_eq_ok h,
      ok_bind, hRun]
    split
    · rw [ok_bind, ih (Nat.le_of_succ_le h), Nat.add_sub_add_right]
    · rfl

variable (hSize : t.byteSize ≤ maxTextSize)
include hSize

theorem wordStop_eq_ok (h : n ≤ t.length) :
    wordStop t n = .ok (n + runAfter isLinkWordChar t n) := by
  have hLength := t.length_le_byteSize
  fun_induction wordStop t n with
  | case1 n hInside ih =>
    have hRun : runAfter isLinkWordChar t n =
        if isLinkWordChar t[n] then runAfter isLinkWordChar t (n + 1) + 1 else 0 := by
      rw [runAfter, List.drop_eq_getElem_cons hInside, List.takeWhile_cons]
      split <;> rfl
    rw [charAt_eq_ok hInside, ok_bind, hRun]
    split
    · rw [add_eq_ok (by omega), ok_bind, ih hInside]
      congr 1
      omega
    · rfl
  | case2 n hOutside =>
    have hRun : runAfter isLinkWordChar t n = 0 := by
      rw [runAfter, List.drop_eq_nil_of_le (Nat.le_of_not_lt hOutside)]
      rfl
    rw [hRun]
    rfl

theorem wordAt_eq_ok (h : n ≤ t.length) : wordAt t n = .ok (Formatting.wordAt t n) := by
  rw [wordAt, wordStart_eq_ok h, ok_bind, wordStop_eq_ok hSize h, ok_bind,
    Selection.between_of_le (Nat.le_trans (Nat.sub_le _ _) (Nat.le_add_right _ _))]
  rfl

theorem edited_eq_ok (hInsert : e.insert.byteSize ≤ t.byteSize + 16) (s : Selection) :
    edited t e s = .ok (.added t e s) := by
  rw [edited, add_eq_ok (by omega), ok_bind, cut_front, ok_bind, cut_back, ok_bind]
  rfl

theorem toggledOff_eq_ok (hInsert : e.insert.byteSize ≤ t.byteSize + 16) (s : Selection) :
    toggledOff t e s = .ok (.removed t e s) := by
  rw [toggledOff, edited_eq_ok hSize hInsert, ok_bind]
  rfl

theorem lineStart_eq_ok (h : n ≤ t.length) : lineStart t n = .ok (Formatting.lineStart t n) := by
  obtain ⟨before, rest, hSplit, hStart, -⟩ := exists_isLineSplit h
  have hFront : t.take n = before ++ (t.take n).drop before.length := by
    have hPrefix : before <+: t.take n :=
      List.prefix_take_iff.mpr ⟨hSplit.text ▸ List.prefix_append before rest, hSplit.le⟩
    rw [List.prefix_iff_eq_append.mp hPrefix]
  have hBefore : t.charOffset before.byteSize = before.length := by
    rw [hSplit.text, Text.charOffset_append_byteSize]
  rw [lineStart, cut_front, ok_bind, hFront, ← hStart]
  rcases hSplit.start with rfl | hFeed
  · rw [List.nil_append, rfind?_of_not_mem hSplit.single]
    exact congrArg Except.ok hBefore
  · obtain ⟨outer, rfl⟩ := List.getLast?_eq_some_iff.mp hFeed
    have hFeedSize : Text.byteSize (outer ++ ['\n']) = Text.byteSize outer + 1 := by
      rw [Text.byteSize_append]
      rfl
    have hInside : Text.byteSize (outer ++ ['\n']) ≤ t.byteSize := by
      have hSizes := congrArg Text.byteSize hSplit.text
      rw [Text.byteSize_append] at hSizes
      omega
    rw [List.append_assoc, List.singleton_append, rfind?_append hSplit.single]
    simp only
    rw [add_eq_ok (by omega), ok_bind, ← hFeedSize, hBefore]
    rfl

theorem lineStop_eq_ok (h : n ≤ t.length) : lineStop t n = .ok (Formatting.lineStop t n) := by
  obtain ⟨line, rest, hBack, hRun, hPlain, hRest⟩ := exists_runAfter notLineFeed t n
  have hFeed : '\n' ∉ line := fun hMem => absurd (hPlain _ hMem) (by decide)
  have hText : t = t.take n ++ line ++ rest := by
    rw [List.append_assoc, ← hBack, List.take_append_drop]
  have hSum : t.byteOffset n + Text.byteSize line = Text.byteSize (t.take n ++ line) := by
    rw [Text.byteOffset_eq_byteSize_take, Text.byteSize_append]
  have hOffset : t.charOffset (t.byteOffset n + Text.byteSize line) =
      Formatting.lineStop t n := by
    have hCut := Text.charOffset_append_byteSize (t.take n ++ line) rest
    rwa [← hText, ← hSum, List.length_append, List.length_take, Nat.min_eq_left h, hRun] at hCut
  have hSizes := congrArg Text.byteSize hText
  rw [Text.byteSize_append, ← hSum] at hSizes
  rw [lineStop, cut_back, ok_bind, hBack]
  cases rest with
  | nil =>
    rw [List.append_nil, find?_of_not_mem hFeed, ← hOffset, hSizes]
    rfl
  | cons c rest =>
    obtain rfl : c = '\n' := by simpa [notLineFeed] using hRest c rfl
    rw [find?_append hFeed]
    simp only
    rw [add_eq_ok (by omega), ok_bind, hOffset]
    rfl

variable (hOrder : s.start ≤ s.stop) (hStop : s.stop ≤ t.length)
include hOrder hStop

theorem isWrapped_eq_ok : isWrapped marker t s = .ok (Formatting.isWrapped marker t s) := by
  have hLength := t.length_le_byteSize
  have hShort := marker.length_le_byteSize
  unfold isWrapped Formatting.isWrapped
  by_cases hFront : s.start < marker.length
  · rw [if_pos hFront, decide_eq_false (Nat.not_le.mpr hFront)]
    rfl
  -- what is subtracted from the start is not more than the start
  rw [if_neg hFront, decide_eq_true (Nat.le_of_not_lt hFront), add_eq_ok (by omega), ok_bind,
    sub_eq_ok (Nat.le_of_not_lt hFront)]
  by_cases hBack : t.length < s.stop + marker.length
  · rw [if_pos hBack, decide_eq_false (Nat.not_le.mpr hBack)]
    rfl
  rw [if_neg hBack, decide_eq_true (Nat.le_of_not_lt hBack)]
  simp only [ok_bind, charSlice_eq_ok]
  by_cases hBefore : t.slice (s.start - marker.length) s.start = marker
  · rw [if_neg (not_not_intro hBefore), beq_iff_eq.mpr hBefore]
    rfl
  · rw [if_pos hBefore, beq_eq_false_iff_ne.mpr hBefore]
    rfl

variable (hMarker : marker.byteSize ≤ 3)
include hMarker

theorem toggleInline_eq_ok :
    toggleInline marker t s = .ok (Formatting.toggleInline marker t s) := by
  have hLength := t.length_le_byteSize
  have hShort := marker.length_le_byteSize
  have hSelected : (s.selected t).byteSize ≤ t.byteSize := t.byteSize_slice_le s.start s.stop
  have hSum : s.start + marker.length ≤ s.stop + marker.length := by omega
  unfold toggleInline Formatting.toggleInline
  rw [isWrapped_eq_ok hSize hOrder hStop, ok_bind, charSlice_eq_ok, ok_bind]
  cases hWrapped : Formatting.isWrapped marker t s with
  | true =>
    have hFront : marker.length ≤ s.start := by
      simp only [Formatting.isWrapped, Bool.and_eq_true, decide_eq_true_eq] at hWrapped
      exact hWrapped.1.1.1
    rw [if_pos rfl, if_pos rfl, sub_eq_ok hFront, sub_eq_ok (Nat.le_trans hFront hOrder),
      add_eq_ok (by omega)]
    simp only [ok_bind]
    rw [toggledOff_eq_ok hSize (Nat.le_add_right_of_le hSelected),
      Selection.between_of_le (by omega), Selection.between_of_le (Nat.sub_le_sub_right hOrder _)]
    rfl
  | false =>
    rw [if_neg Bool.false_ne_true, if_neg Bool.false_ne_true, add_eq_ok (by omega),
      add_eq_ok (by omega)]
    simp only [ok_bind]
    rw [edited_eq_ok hSize, Selection.between_of_le hSum]
    · rfl
    · change (marker ++ s.selected t ++ marker).byteSize ≤ _
      simp only [Text.byteSize_append]
      omega

theorem toggleList_eq_ok : toggleList marker t s = .ok (Formatting.toggleList marker t s) := by
  have hLength := t.length_le_byteSize
  have hShort := marker.length_le_byteSize
  have hInside := Nat.le_trans hOrder hStop
  have hStart : Formatting.lineStart t s.start ≤ s.start := Nat.sub_le _ _
  unfold toggleList Formatting.toggleList
  rw [lineStart_eq_ok hSize hInside, ok_bind, lineStop_eq_ok hSize hInside, ok_bind,
    charSlice_eq_ok, ok_bind]
  by_cases hFound : marker.isPrefixOf
      (t.slice (Formatting.lineStart t s.start) (Formatting.lineStop t s.start)) = true
  · rw [if_pos hFound, if_pos hFound, add_eq_ok (by omega)]
    simp only [ok_bind]
    rw [Selection.between_of_le (Nat.le_add_right _ _), Selection.between_of_le (by omega)]
    exact toggledOff_eq_ok hSize (Nat.zero_le _) _
  · rw [if_neg hFound, if_neg hFound, add_eq_ok (by omega), add_eq_ok (by omega)]
    simp only [ok_bind]
    rw [Selection.between_of_le (Nat.add_le_add_right hOrder _)]
    exact edited_eq_ok hSize (Nat.le_trans hMarker (by omega)) _

omit hMarker

theorem linkRange_eq_ok : linkRange t s = .ok (Formatting.linkRange t s) := by
  unfold linkRange Formatting.linkRange
  split
  · exact wordAt_eq_ok hSize (Nat.le_trans hOrder hStop)
  · rfl

theorem insertLink_eq_ok : insertLink t s = .ok (Formatting.insertLink t s) := by
  have hLength := t.length_le_byteSize
  have hLe := start_le_stop_linkRange t hOrder
  have hInside := stop_linkRange_le t hOrder hStop
  have hLabel : (linkLabel ((Formatting.linkRange t s).selected t)).byteSize ≤ t.byteSize + 4 := by
    unfold linkLabel
    split
    · exact Nat.le_add_left _ _
    · exact Nat.le_add_right_of_le (t.byteSize_slice_le _ _)
  have hShort := (linkLabel ((Formatting.linkRange t s).selected t)).length_le_byteSize
  have hAddress : addressPlaceholder.length = 3 := rfl
  unfold insertLink
  rw [linkRange_eq_ok hSize hOrder hStop, ok_bind, charSlice_eq_ok, ok_bind, insertLink_eq]
  change (add _ (linkLabel ((Formatting.linkRange t s).selected t)).length >>= _) = _
  rw [add_eq_ok (by omega), ok_bind, add_eq_ok (by omega), ok_bind, add_eq_ok (by omega), ok_bind]
  rw [Selection.between_of_le (Nat.le_add_right _ _)]
  refine edited_eq_ok hSize ?_ _
  have hAdded : Text.byteSize ['['] + Text.byteSize [']', '('] +
      Text.byteSize addressPlaceholder + Text.byteSize [')'] = 7 := rfl
  simp only [Text.byteSize_append]
  unfold Selection.selected at hLabel
  omega

end

theorem byteSize_inlineMarker?_le {c : Command} {marker : Text}
    (h : c.inlineMarker? = some marker) : marker.byteSize ≤ 3 := by
  cases c <;> cases h <;> decide

theorem byteSize_listMarker?_le {c : Command} {marker : Text}
    (h : c.listMarker? = some marker) : marker.byteSize ≤ 3 := by
  cases c <;> cases h <;> decide

theorem apply_eq_ok {t : Text} (hSize : t.byteSize ≤ maxTextSize) (c : Command)
    (raw : Selection) : apply c t raw = .ok (c.apply t raw) := by
  have hOrder := Selection.start_le_stop_clamp t raw
  have hStop := Selection.stop_clamp_le t raw
  unfold apply Command.apply
  cases hInline : c.inlineMarker? with
  | some marker =>
    exact toggleInline_eq_ok hSize hOrder hStop (byteSize_inlineMarker?_le hInline)
  | none =>
    cases hList : c.listMarker? with
    | some marker =>
      exact toggleList_eq_ok hSize hOrder hStop (byteSize_listMarker?_le hList)
    | none =>
      cases c with
      | link => exact insertLink_eq_ok hSize hOrder hStop
      | _ => rfl

theorem record_eq_ok (limit : Nat) (t : Text) (history : List Text) :
    record limit t history = .ok (TextBuffer.record limit t history) := by
  unfold record TextBuffer.record
  split <;> rfl

theorem replaceRange_eq_ok (b : TextBuffer) (range : Selection) (insert : Text) :
    replaceRange b range insert = .ok (b.replaceRange range insert) := by
  have hOrder := Selection.start_le_stop_clamp b.content range
  have hStop := Selection.stop_clamp_le b.content range
  have hClampStart : b.content.clampOffset (Selection.between range.start range.stop).start =
      (range.clamp b.content).start := by
    simp only [Selection.clamp, Selection.between, Text.clampOffset]
    omega
  have hClampStop : b.content.clampOffset (Selection.between range.start range.stop).stop =
      (range.clamp b.content).stop := by
    simp only [Selection.clamp, Selection.between, Text.clampOffset]
    omega
  unfold replaceRange TextBuffer.replaceRange
  simp only [hClampStart, hClampStop]
  generalize range.clamp b.content = range at hOrder hStop ⊢
  have hEmpty : (b.content.byteOffset range.start = b.content.byteOffset range.stop ∧ insert = []) ↔
      (range.isCaret && insert.isEmpty) = true := by
    rw [Text.byteOffset_inj (Nat.le_trans hOrder hStop) hStop, Selection.isCaret, Bool.and_eq_true,
      beq_iff_eq, List.isEmpty_iff]
  by_cases hNothing : (range.isCaret && insert.isEmpty) = true
  · rw [if_pos (hEmpty.mpr hNothing), if_pos hNothing]
    rfl
  · rw [if_neg (mt hEmpty.mp hNothing), if_neg hNothing, record_eq_ok, ok_bind,
      splice_byteOffset hOrder hStop]
    rfl

/-- No command traps, and neither does the replay of its edit: every step of both is one that
the machine can take, and they have the result that they have without its limits. -/
theorem runs_of_byteSize_le {t : Text} (hSize : t.byteSize ≤ maxTextSize) (c : Command)
    (raw : Selection) :
    apply c t raw = .ok (c.apply t raw) ∧
    ∀ b : TextBuffer, b.content = t → ∀ e, (c.apply t raw).edit = some e →
      replaceRange b e.range e.insert = .ok (b.replaceRange e.range e.insert) := by
  constructor
  · exact apply_eq_ok hSize c raw
  · intro b _ e _
    exact replaceRange_eq_ok b e.range e.insert

/-- A selection that is reversed and far past the end, in a text with characters of two bytes. -/
theorem runs_of_byteSize_le_staleSelection :
    Text.byteSize "é-ü".toList ≤ maxTextSize ∧
    apply .link "é-ü".toList ⟨maxOffset, 2⟩ = .ok (Command.link.apply "é-ü".toList ⟨maxOffset, 2⟩) ∧
    replaceRange (.ofText "é-ü".toList) ⟨2, 3⟩ "[ü](url)".toList =
      .ok ((TextBuffer.ofText "é-ü".toList).replaceRange ⟨2, 3⟩ "[ü](url)".toList) := by
  have hSize : Text.byteSize "é-ü".toList ≤ maxTextSize := by decide
  obtain ⟨hApply, hReplace⟩ := runs_of_byteSize_le hSize .link ⟨maxOffset, 2⟩
  exact ⟨hSize, hApply, hReplace (.ofText "é-ü".toList) rfl ⟨⟨2, 3⟩, "[ü](url)".toList⟩ (by rfl)⟩

end MarkdownEditor.Machine
