import MarkdownEditor.Proofs.Fence.Scan
import MarkdownEditor.Proofs.Fence.Slice

/-!
# Scanning a text in two parts

The blocks of a text that is cut between two lines are known from its two parts. If the
first part leaves no opener behind, the two are scanned apart. If it leaves one, the block
that it opens ends with the first closing line of the second part, and what comes after
that line is scanned on its own.

The scanner is followed over lines. Some first lines of a text are settled: whatever comes
after them, their blocks stay and nothing of them reaches further. What is not settled
begins with the opener that is left.
-/

namespace MarkdownEditor

set_option autoImplicit false

open Text

def ByteRange.shift (n : Nat) (range : ByteRange) : ByteRange := ⟨n + range.start, n + range.stop⟩

def FencedRange.shift (n : Nat) (b : FencedRange) : FencedRange :=
  ⟨b.tag, b.opener.shift n, b.body.shift n, b.closer.shift n⟩

namespace Fence

/-- The blocks among the pieces, laid out from byte `start` on. -/
def placedBlocks (start : Nat) (ps : List Piece) : List FencedRange :=
  (placeFrom start ps).filterMap Region.block?

theorem placedBlocks_markdown (start : Nat) (t : Text) (ps : List Piece) :
    placedBlocks start (.markdown t :: ps) = placedBlocks (start + t.byteSize) ps := rfl

theorem placedBlocks_fenced (start : Nat) (b : FencedBlock) (ps : List Piece) :
    placedBlocks start (.fenced b :: ps) =
      ⟨b.tag, ⟨start, start + b.opener.byteSize⟩,
        ⟨start + b.opener.byteSize, start + b.opener.byteSize + b.body.byteSize⟩,
        ⟨start + b.opener.byteSize + b.body.byteSize,
          start + b.opener.byteSize + b.body.byteSize + b.closer.byteSize⟩⟩ ::
        placedBlocks (start + b.text.byteSize) ps := rfl

theorem placedBlocks_add (n start : Nat) (ps : List Piece) :
    placedBlocks (n + start) ps = (placedBlocks start ps).map (FencedRange.shift n) := by
  induction ps generalizing start with
  | nil => rfl
  | cons p ps ih =>
    have hRest := ih (start + p.text.byteSize)
    rw [← Nat.add_assoc] at hRest
    cases p with
    | markdown t => exact hRest
    | fenced b =>
      rw [placedBlocks_fenced, placedBlocks_fenced, List.map_cons]
      simp only [FencedRange.shift, ByteRange.shift, ← Nat.add_assoc]
      exact congrArg (List.cons _) hRest

theorem placedBlocks_consMarkdown (start : Nat) (u : Text) (ps : List Piece) :
    placedBlocks start (Piece.consMarkdown u ps) = placedBlocks (start + u.byteSize) ps := by
  unfold Piece.consMarkdown
  split
  · rw [placedBlocks_markdown, placedBlocks_markdown, byteSize_append, Nat.add_assoc]
  · rfl
  · rfl

/-- The blocks that the scanner finds in the lines, the first of which begins at byte `start`. -/
def rangesFrom (start : Nat) (ls : List Text) : List FencedRange :=
  placedBlocks start (piecesOfLines ls)

theorem rangesFrom_lines (n : Nat) (t : Text) :
    rangesFrom n t.lines = (blockRanges t).map (FencedRange.shift n) :=
  placedBlocks_add n 0 (pieces t)

theorem byteSize_lineContent_add_lineEnd (line : Text) :
    (lineContent line).byteSize + (lineEnd line).byteSize = line.byteSize := by
  rw [← byteSize_append, lineContent_append_lineEnd]

section Lines

variable {start : Nat} {line tag closer : Text} {body after rest ls : List Text}

theorem splitAtCloser?_append (hBody : ∀ l ∈ body, isCloser l = false)
    (hCloser : isCloser closer = true) (after : List Text) :
    splitAtCloser? (body ++ closer :: after) = some (body, closer, after) := by
  induction body with
  | nil => simp [splitAtCloser?, hCloser]
  | cons l body ih =>
    have hRest := ih fun l' hl' => hBody l' (List.mem_cons_of_mem l hl')
    simp [splitAtCloser?, hBody l List.mem_cons_self, hRest]

theorem splitAtCloser?_of_forall (h : ∀ l ∈ ls, isCloser l = false) : splitAtCloser? ls = none := by
  cases hSplit : splitAtCloser? ls with
  | none => rfl
  | some split =>
    obtain ⟨body, closer, after⟩ := split
    have hCloser := (splitAtCloser?_eq_some hSplit).1
    have hMem : closer ∈ ls := by
      rw [eq_of_splitAtCloser? hSplit]
      exact List.mem_append_right body List.mem_cons_self
    rw [h closer hMem] at hCloser
    cases hCloser

theorem rangesFrom_cons_of_none (hTag : openerTag? line = none) :
    rangesFrom start (line :: rest) = rangesFrom (start + line.byteSize) rest := by
  rw [rangesFrom, piecesOfLines, hTag]
  exact placedBlocks_consMarkdown start line _

theorem rangesFrom_of_unclosed (hTag : openerTag? line = some tag)
    (hRest : ∀ l ∈ rest, isCloser l = false) : rangesFrom start (line :: rest) = [] := by
  simp only [rangesFrom, piecesOfLines, hTag]
  split
  · next => exact placedBlocks_consMarkdown start (line ++ rest.flatten) []
  · next h =>
    rw [splitAtCloser?_of_forall hRest] at h
    cases h

/-- The block of an opening line, the lines after it, and the closing line. -/
def blockAt (start : Nat) (tag line : Text) (body : List Text) (closer : Text) : FencedRange :=
  ⟨tag, ⟨start, start + line.byteSize⟩,
    ⟨start + line.byteSize, start + line.byteSize + byteSize body.flatten⟩,
    ⟨start + line.byteSize + byteSize body.flatten,
      start + line.byteSize + byteSize body.flatten + (lineContent closer).byteSize⟩⟩

theorem piecesOfLines_of_closed (hTag : openerTag? line = some tag)
    (hBody : ∀ l ∈ body, isCloser l = false) (hCloser : isCloser closer = true) :
    piecesOfLines (line :: (body ++ closer :: after)) =
      .fenced ⟨tag, line, body.flatten, lineContent closer⟩ ::
        Piece.consMarkdown (lineEnd closer) (piecesOfLines after) := by
  have hSplit := splitAtCloser?_append hBody hCloser after
  simp only [piecesOfLines, hTag]
  split
  · next h =>
    rw [hSplit] at h
    cases h
  · next h =>
    obtain ⟨rfl, rfl, rfl⟩ : _ ∧ _ ∧ _ := by simpa [hSplit] using h
    rfl

theorem rangesFrom_of_closed (hTag : openerTag? line = some tag)
    (hBody : ∀ l ∈ body, isCloser l = false) (hCloser : isCloser closer = true) :
    rangesFrom start (line :: (body ++ closer :: after)) = blockAt start tag line body closer ::
      rangesFrom (start + byteSize (line :: (body ++ [closer])).flatten) after := by
  have hContent := byteSize_lineContent_add_lineEnd closer
  rw [rangesFrom, piecesOfLines_of_closed hTag hBody hCloser, placedBlocks_fenced,
    placedBlocks_consMarkdown]
  simp only [rangesFrom, FencedBlock.text, blockAt, List.flatten_cons, List.flatten_append,
    List.flatten_nil, List.append_nil, byteSize_append, ← hContent, Nat.add_assoc]

/-- Whatever lines come after these ones, they are scanned on their own. -/
def IsSettled (ls : List Text) : Prop := ∀ start ms,
  rangesFrom start (ls ++ ms) = rangesFrom start ls ++ rangesFrom (start + byteSize ls.flatten) ms

theorem rangesFrom_nil (start : Nat) : rangesFrom start [] = [] := by
  rw [rangesFrom, piecesOfLines]
  rfl

theorem isSettled_nil : IsSettled [] := by
  intro start ms
  rw [rangesFrom_nil, List.nil_append, List.nil_append, List.flatten_nil, byteSize_nil, Nat.add_zero]

theorem IsSettled.cons (h : IsSettled ls) (hTag : openerTag? line = none) :
    IsSettled (line :: ls) := by
  intro start ms
  rw [List.cons_append, rangesFrom_cons_of_none hTag, rangesFrom_cons_of_none hTag, h,
    List.flatten_cons, byteSize_append, Nat.add_assoc]

theorem IsSettled.block (h : IsSettled ls) (hTag : openerTag? line = some tag)
    (hBody : ∀ l ∈ body, isCloser l = false) (hCloser : isCloser closer = true) :
    IsSettled (line :: (body ++ closer :: ls)) := by
  intro start ms
  have hLines : line :: (body ++ closer :: ls) ++ ms = line :: (body ++ closer :: (ls ++ ms)) := by
    simp only [List.cons_append, List.append_assoc]
  have hSize : byteSize (line :: (body ++ closer :: ls)).flatten =
      byteSize (line :: (body ++ [closer])).flatten + byteSize ls.flatten := by
    simp only [List.flatten_cons, List.flatten_append, List.flatten_nil, List.append_nil,
      byteSize_append, Nat.add_assoc]
  rw [hLines, rangesFrom_of_closed hTag hBody hCloser, rangesFrom_of_closed hTag hBody hCloser, h,
    hSize, Nat.add_assoc, List.cons_append]

/-- If the regions end in markdown, none of its lines before byte `stop` opens a block. -/
def QuietUntil (t : Text) (stop : Nat) (rs : List Region) : Prop :=
  ∀ range, [Region.markdown range] <:+ rs → range.start ≤ stop ∧ NoOpener t ⟨range.start, stop⟩

theorem markdown_suffix_consMarkdown {start : Nat} {u : Text} {ps : List Piece} {range : ByteRange}
    (h : [Region.markdown range] <:+ placeFrom start (Piece.consMarkdown u ps)) :
    [Region.markdown range] <:+ placeFrom (start + u.byteSize) ps ∨
      (range.start = start ∧ (ps = [] ∨ ∃ v, ps = [.markdown v])) := by
  by_cases hu : u = []
  · subst hu
    rw [Piece.consMarkdown_empty] at h
    exact .inl h
  · rcases ps with _ | ⟨v | block, rest⟩
    · rw [Piece.consMarkdown_nil hu] at h
      rcases List.suffix_cons_iff.mp h with hEq | hNil
      · cases hEq
        exact .inr ⟨rfl, .inl rfl⟩
      · cases List.suffix_nil.mp hNil
    · rcases List.suffix_cons_iff.mp h with hEq | hRest
      · obtain ⟨hRange, hNil⟩ := List.cons.inj hEq
        cases hRange
        cases rest with
        | nil => exact .inr ⟨rfl, .inr ⟨v, rfl⟩⟩
        | cons p rest => cases hNil
      · refine .inl (List.suffix_cons_iff.mpr (.inr ?_))
        rwa [Piece.text, byteSize_append, ← Nat.add_assoc] at hRest
    · rw [Piece.consMarkdown_fenced hu] at h
      rcases List.suffix_cons_iff.mp h with hEq | hRest
      · cases hEq
      · exact .inl hRest

theorem QuietUntil.consMarkdown {t u : Text} {start stop : Nat} {ps : List Piece}
    (h : QuietUntil t stop (placeFrom (start + u.byteSize) ps))
    (hNone : NoOpener t ⟨start, start + u.byteSize⟩) (hLe : start + u.byteSize ≤ stop)
    (hNil : ps = [] → stop = start + u.byteSize) :
    QuietUntil t stop (placeFrom start (Piece.consMarkdown u ps)) := by
  intro range hRange
  rcases markdown_suffix_consMarkdown hRange with hLast | ⟨hStart, hOnly⟩
  · exact h range hLast
  · have hAfter : NoOpener t ⟨start + u.byteSize, stop⟩ := by
      rcases hOnly with rfl | ⟨v, rfl⟩
      · rw [hNil rfl]
        exact noOpener_empty _
      · exact (h _ List.suffix_rfl).2
    rw [hStart]
    exact ⟨Nat.le_trans (Nat.le_add_right _ _) hLe, hNone.append hAfter⟩

/-- Nothing, or an opening line and lines that do not close its block. -/
def IsPending (ls : List Text) : Prop :=
  ls = [] ∨ ∃ line rest tag, ls = line :: rest ∧ openerTag? line = some tag ∧
    ∀ l ∈ rest, isCloser l = false

theorem byteSize_eq_zero_of_piecesOfLines {front tail : List Text}
    (h : piecesOfLines (front ++ tail) = []) : byteSize front.flatten = 0 := by
  have hFlatten : (front ++ tail).flatten = [] := by
    rw [← flatMap_text_piecesOfLines, h, List.flatMap_nil]
  rw [List.flatten_append, List.append_eq_nil_iff] at hFlatten
  rw [hFlatten.1, byteSize_nil]

/-- The lines of a text are settled lines, followed by the opener that is left, if any. -/
theorem exists_settled_append {t : Text} {start : Nat} {ls : List Text} (h : LinesFrom t start ls) :
    ∃ front tail, ls = front ++ tail ∧ IsSettled front ∧ IsPending tail ∧
      QuietUntil t (start + byteSize front.flatten) (placeFrom start (piecesOfLines ls)) := by
  -- along the scanner: a line that opens nothing, an opener that is left, or a whole block
  fun_induction piecesOfLines ls generalizing start with
  | case1 =>
    refine ⟨[], [], rfl, isSettled_nil, .inl rfl, ?_⟩
    intro range hRange
    cases List.suffix_nil.mp hRange
  | case2 line rest hTag ih =>
    obtain ⟨front, tail, rfl, hFront, hTail, hQuiet⟩ := ih h.2
    refine ⟨line :: front, tail, rfl, hFront.cons hTag, hTail, ?_⟩
    rw [List.flatten_cons, byteSize_append, ← Nat.add_assoc]
    refine hQuiet.consMarkdown (noOpener_line h.1 hTag) (Nat.le_add_right _ _) fun hNil => ?_
    rw [byteSize_eq_zero_of_piecesOfLines hNil, Nat.add_zero]
  | case3 line rest tag hTag hSplit =>
    refine ⟨[], line :: rest, rfl, isSettled_nil,
      .inr ⟨line, rest, tag, rfl, hTag, splitAtCloser?_eq_none hSplit⟩, ?_⟩
    intro range hRange
    rcases markdown_suffix_consMarkdown hRange with hNil | ⟨hStart, -⟩
    · cases List.suffix_nil.mp hNil
    · rw [hStart, List.flatten_nil, byteSize_nil, Nat.add_zero]
      exact ⟨Nat.le_refl _, noOpener_empty start⟩
  | case4 line rest tag hTag body closer after hSplit ih =>
    obtain rfl := eq_of_splitAtCloser? hSplit
    obtain ⟨hCloser, hBody⟩ := splitAtCloser?_eq_some hSplit
    have hLines := h.2.drop
    obtain ⟨front, tail, rfl, hFront, hTail, hQuiet⟩ := ih hLines.2
    refine ⟨line :: (body ++ closer :: front), tail, by simp, hFront.block hTag hBody hCloser,
      hTail, ?_⟩
    have hContent := byteSize_lineContent_add_lineEnd closer
    have hSize : start + byteSize (line :: (body ++ closer :: front)).flatten =
        start + line.byteSize + byteSize body.flatten + closer.byteSize + byteSize front.flatten := by
      simp only [List.flatten_cons, List.flatten_append, byteSize_append, Nat.add_assoc]
    have hText : start + (Piece.fenced ⟨tag, line, body.flatten, lineContent closer⟩).text.byteSize =
        start + line.byteSize + byteSize body.flatten + (lineContent closer).byteSize := by
      simp only [Piece.text, FencedBlock.text, byteSize_append, Nat.add_assoc]
    intro range hRange
    rw [hSize]
    -- the last region is not the block, so it is among those after the closing line
    rcases List.suffix_cons_iff.mp hRange with hEq | hRest
    · cases hEq
    · rw [hText] at hRest
      rw [← hContent, ← Nat.add_assoc] at hQuiet ⊢
      refine hQuiet.consMarkdown (noOpener_lineEnd hLines.1 ((isCloser_iff closer).mp hCloser))
        (Nat.le_add_right _ _) (fun hNil => ?_) range hRest
      rw [byteSize_eq_zero_of_piecesOfLines hNil, Nat.add_zero]

end Lines

/-- There is an opening line in the markdown that the text ends with. -/
def HasPendingOpener (t : Text) : Prop :=
  ∃ range, [Region.markdown range] <:+ regions t ∧ ¬ NoOpener t range

/-- `line` is the first opening line in the markdown that the text ends with. -/
structure IsPendingOpener (t : Text) (start : Nat) (line tag : Text) : Prop where
  isLine : IsLine t start line
  opener : IsOpener line tag
  first : ∃ range, [Region.markdown range] <:+ regions t ∧ range.start ≤ start ∧
    NoOpener t ⟨range.start, start⟩

def HasCloser (t : Text) : Prop := ∃ start line, IsLine t start line ∧ IsCloser line

/-- `closer` is the first closing line of the text, between `front` and `rest`. -/
structure IsFirstCloser (t front closer rest : Text) : Prop where
  text : t = front ++ (closer ++ rest)
  start : AtLineStart front
  isLine : IsFirstLine closer rest
  closer : IsCloser closer
  first : ∀ n line, IsLine t n line → n < front.byteSize → ¬ IsCloser line

theorem IsFirstCloser.lines_eq {t front closer rest : Text} (h : IsFirstCloser t front closer rest) :
    lines t = lines front ++ closer :: lines rest := by
  rw [h.text, lines_of_atLineStart h.start h.isLine]

theorem IsFirstCloser.not_isCloser {t front closer rest : Text}
    (h : IsFirstCloser t front closer rest) : ∀ l ∈ lines front, isCloser l = false := by
  intro l hl
  have hLines := linesFrom_lines t
  rw [h.lines_eq] at hLines
  obtain ⟨n, hLine, hLt⟩ := hLines.exists_isLine hl
  rw [flatten_lines, Nat.zero_add] at hLt
  exact Bool.eq_false_iff.mpr fun hCloser => h.first n l hLine hLt ((isCloser_iff l).mp hCloser)

theorem hasCloser_iff (t : Text) : HasCloser t ↔ ∃ l ∈ lines t, isCloser l = true := by
  constructor
  · rintro ⟨start, line, ⟨before, after, rfl, -, hStart, hFirst⟩, hCloser⟩
    refine ⟨line, ?_, (isCloser_iff line).mpr hCloser⟩
    rw [lines_of_atLineStart hStart hFirst]
    exact List.mem_append_right _ List.mem_cons_self
  · rintro ⟨line, hMem, hCloser⟩
    have hLines := linesFrom_lines t
    rw [← List.append_nil (lines t)] at hLines
    obtain ⟨n, hLine, -⟩ := hLines.exists_isLine hMem
    exact ⟨n, line, hLine, (isCloser_iff line).mp hCloser⟩

theorem exists_isFirstCloser {t : Text} (h : HasCloser t) :
    ∃ front closer rest, IsFirstCloser t front closer rest := by
  cases hSplit : splitAtCloser? (lines t) with
  | none =>
    obtain ⟨l, hMem, hCloser⟩ := (hasCloser_iff t).mp h
    rw [splitAtCloser?_eq_none hSplit l hMem] at hCloser
    cases hCloser
  | some split =>
    obtain ⟨body, closer, after⟩ := split
    obtain ⟨hCloser, hBody⟩ := splitAtCloser?_eq_some hSplit
    have hLines := linesFrom_lines t
    rw [eq_of_splitAtCloser? hSplit] at hLines
    obtain ⟨front, rest, hText, hFront, hStart, hLine⟩ := hLines.drop.1
    refine ⟨front, closer, rest, hText, hStart, hLine, (isCloser_iff closer).mp hCloser, ?_⟩
    intro n line hOther hLt
    exact not_isCloser (hBody line (hLines.mem_of_isLine hOther (Nat.zero_le n) (hFront ▸ hLt)))

theorem tile_concat {stop start : Nat} {rs : List Region} {r : Region}
    (h : Region.Tile stop start (rs ++ [r])) : r.span.stop = stop := by
  induction rs generalizing start with
  | nil => exact h.2.2
  | cons s rs ih => exact ih h.2.2

/-- A text that ends with a line feed ends in markdown. -/
theorem exists_last_markdown {t : Text} (h : AtLineStart t) (hne : t ≠ []) :
    ∃ range, [Region.markdown range] <:+ regions t ∧ range.stop = t.byteSize := by
  have hReading := isReading_regions t
  rcases List.eq_nil_or_concat (regions t) with hNil | ⟨rs, r, hLast⟩
  · have hTile := hReading.tile
    rw [hNil] at hTile
    exact absurd hTile (Nat.ne_of_lt (byteSize_pos hne))
  · rw [hLast, List.concat_eq_append] at hReading ⊢
    have hStop := tile_concat hReading.tile
    cases r with
    | markdown range => exact ⟨range, List.suffix_append rs _, hStop⟩
    | fenced b =>
      -- the line feed of the last line would belong to no region
      obtain ⟨line, hLine, -, hCloser⟩ := (hReading.block b (by simp)).closer
      obtain ⟨before, after, rfl, hBefore, -, hFirst⟩ := hLine
      have hEnd : (lineEnd line).byteSize = 0 ∧ after.byteSize = 0 := by
        have hSize : b.closer.stop = _ := hStop
        rw [hCloser, ← hBefore, byteSize_append, byteSize_append,
          ← byteSize_lineContent_add_lineEnd line] at hSize
        omega
      have hAfter : after = [] := by
        by_cases hMore : after = []
        · exact hMore
        · exact absurd hEnd.2 (byteSize_pos hMore).ne'
      have hFeed : line.getLast? = some '\n' := by
        have hLastChar := h.resolve_left hne
        rwa [hAfter, List.append_nil, List.getLast?_append,
          List.getLast?_eq_some_getLast hFirst.nonempty, Option.some_or,
          ← List.getLast?_eq_some_getLast hFirst.nonempty] at hLastChar
      rw [lineEnd, if_pos hFeed] at hEnd
      exact absurd hEnd.1 (by decide)

/-- The lines of a text are settled, or all those before the opener that is left are. -/
theorem settled_or_pending {t : Text} (h : AtLineStart t) :
    (IsSettled t.lines ∧ ¬ HasPendingOpener t) ∨
    ∃ front line rest tag, t.lines = front ++ line :: rest ∧ IsSettled front ∧
      openerTag? line = some tag ∧ (∀ l ∈ rest, isCloser l = false) ∧
      IsPendingOpener t (byteSize front.flatten) line tag ∧ HasPendingOpener t := by
  have hLines := linesFrom_lines t
  obtain ⟨front, tail, hSplit, hFront, hTail, hQuiet⟩ := exists_settled_append hLines
  rw [Nat.zero_add] at hQuiet
  rcases hTail with rfl | ⟨line, rest, tag, rfl, hTag, hRest⟩
  · rw [List.append_nil] at hSplit
    rw [← hSplit, flatten_lines] at hQuiet
    refine .inl ⟨hSplit ▸ hFront, ?_⟩
    rintro ⟨range, hRange, hOpener⟩
    refine hOpener fun start line tag hLine hLe _ => ?_
    exact (hQuiet range hRange).2 start line tag hLine hLe hLine.start_lt
  · rw [hSplit] at hLines
    have hLine : IsLine t (byteSize front.flatten) line := by
      have hDrop := hLines.drop
      rw [Nat.zero_add] at hDrop
      exact hDrop.1
    have hOpener := (openerTag?_eq_some_iff line tag).mp hTag
    have hne : t ≠ [] := by
      rintro rfl
      exact absurd hLine.start_lt (Nat.not_lt_zero _)
    obtain ⟨range, hRange, hStop⟩ := exists_last_markdown h hne
    obtain ⟨hLe, hNone⟩ := hQuiet range hRange
    refine .inr ⟨front, line, rest, tag, hSplit, hFront, hTag, hRest,
      ⟨hLine, hOpener, range, hRange, hLe, hNone⟩, range, hRange, ?_⟩
    intro hNo
    exact hNo _ line tag hLine hLe (hStop ▸ hLine.start_lt) hOpener

/-- What the blocks of `a` and of `b` say about the blocks of `a ++ b`. -/
structure ScansInParts (a b : Text) : Prop where
  kept : blockRanges a <+: blockRanges (a ++ b)
  /-- Without an opener left in `a`, the two are scanned apart. -/
  settled : ¬ HasPendingOpener a →
    blockRanges (a ++ b) = blockRanges a ++ (blockRanges b).map (.shift a.byteSize)
  /-- An opener left in `a` and the first closing line of `b` make the next block. What comes
  after that line is scanned on its own. -/
  closed : HasPendingOpener a → HasCloser b → ∃ start line tag front closer rest,
    IsPendingOpener a start line tag ∧ IsFirstCloser b front closer rest ∧
    blockRanges (a ++ b) = blockRanges a ++
      ⟨tag, ⟨start, start + line.byteSize⟩, ⟨start + line.byteSize, a.byteSize + front.byteSize⟩,
        ⟨a.byteSize + front.byteSize,
          a.byteSize + front.byteSize + (lineContent closer).byteSize⟩⟩ ::
      (blockRanges rest).map (.shift (a.byteSize + front.byteSize + closer.byteSize))
  unclosed : HasPendingOpener a → ¬ HasCloser b → blockRanges (a ++ b) = blockRanges a

/-- A text may be cut where a line ends, and its parts scanned one after the other. -/
theorem scansInParts_of_atLineStart {a : Text} (ha : AtLineStart a) (b : Text) :
    ScansInParts a b := by
  have hAll : blockRanges (a ++ b) = rangesFrom 0 (a.lines ++ b.lines) := by
    rw [← lines_append ha]
    rfl
  have hFirst : blockRanges a = rangesFrom 0 a.lines := rfl
  rcases settled_or_pending ha with ⟨hSettled, hNone⟩ |
    ⟨front, line, rest, tag, hSplit, hFront, hTag, hRest, hPending, hHas⟩
  · have hBlocks : blockRanges (a ++ b) = blockRanges a ++ (blockRanges b).map (.shift a.byteSize) := by
      rw [hAll, hSettled, flatten_lines, Nat.zero_add, rangesFrom_lines a.byteSize, hFirst]
    exact ⟨⟨_, hBlocks.symm⟩, fun _ => hBlocks, fun hHas => absurd hHas hNone,
      fun hHas => absurd hHas hNone⟩
  · have hDone : blockRanges a = rangesFrom 0 front := by
      rw [hFirst, hSplit, hFront, rangesFrom_of_unclosed hTag hRest, List.append_nil]
    have hMore : blockRanges (a ++ b) = blockRanges a ++
        rangesFrom (byteSize front.flatten) (line :: (rest ++ b.lines)) := by
      rw [hAll, hSplit, List.append_assoc, hFront, Nat.zero_add, hDone]
      rfl
    refine ⟨⟨_, hMore.symm⟩, fun hNone => absurd hHas hNone, fun _ hCloser => ?_, fun _ hOpen => ?_⟩
    · -- the lines that the opener left in `a` are the start of the body
      obtain ⟨before, closer, after, hb⟩ := exists_isFirstCloser hCloser
      have hBody : ∀ l ∈ rest ++ before.lines, isCloser l = false := by
        intro l hl
        rcases List.mem_append.mp hl with hl | hl
        · exact hRest l hl
        · exact hb.not_isCloser l hl
      have hSize : byteSize front.flatten + line.byteSize + byteSize rest.flatten = a.byteSize := by
        have hText := flatten_lines a
        rw [hSplit, List.flatten_append, List.flatten_cons] at hText
        rw [← hText, byteSize_append, byteSize_append, Nat.add_assoc]
      have hBlock := (isCloser_iff closer).mpr hb.closer
      refine ⟨_, line, tag, before, closer, after, hPending, hb, ?_⟩
      rw [hMore, hb.lines_eq, ← List.append_assoc, rangesFrom_of_closed hTag hBody hBlock,
        rangesFrom_lines]
      simp only [blockAt, List.flatten_cons, List.flatten_append, List.flatten_nil, List.append_nil,
        byteSize_append, flatten_lines, ← Nat.add_assoc, hSize]
    · rw [hMore, rangesFrom_of_unclosed hTag, List.append_nil]
      intro l hl
      rcases List.mem_append.mp hl with hl | hl
      · exact hRest l hl
      · exact Bool.eq_false_iff.mpr fun hCloser => hOpen ((hasCloser_iff b).mpr ⟨l, hl, hCloser⟩)

/-- The cut stands inside a block, in which a line looks like an opener. -/
theorem scansInParts_inBlock :
    AtLineStart "a\n\x60\x60\x60js\n\x60\x60\x60py\r\n".toList ∧
    ScansInParts "a\n\x60\x60\x60js\n\x60\x60\x60py\r\n".toList
      "é\n\x60\x60\x60\r\n\x60\x60\x60\n\x60\x60\x60".toList := by
  have hCut : AtLineStart "a\n\x60\x60\x60js\n\x60\x60\x60py\r\n".toList := .inr rfl
  exact ⟨hCut, scansInParts_of_atLineStart hCut _⟩

end Fence

end MarkdownEditor
