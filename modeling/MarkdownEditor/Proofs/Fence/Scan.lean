import MarkdownEditor.Proofs.Fence.Reading

/-!
# Scanning finds the reading

The regions that the scanner finds are a reading of the text, hence the only
one. The proof follows the lines: what the scanner makes of the lines from some
byte on is a reading from that byte on, and a line put in front of it as
markdown keeps it one.
-/

namespace MarkdownEditor

set_option autoImplicit false

namespace Piece

theorem consMarkdown_empty (ps : List Piece) : consMarkdown [] ps = ps := by
  rcases ps with _ | ⟨_ | _, ps⟩ <;> rfl

theorem consMarkdown_nil {u : Text} (hu : u ≠ []) : consMarkdown u [] = [.markdown u] := by
  cases u with
  | nil => exact absurd rfl hu
  | cons c u => rfl

theorem consMarkdown_fenced {u : Text} (hu : u ≠ []) (block : FencedBlock) (ps : List Piece) :
    consMarkdown u (.fenced block :: ps) = .markdown u :: .fenced block :: ps := by
  cases u with
  | nil => exact absurd rfl hu
  | cons c u => rfl

end Piece

namespace Fence

open Text

variable {t : Text} {start : Nat}

theorem NoOpener.append {middle stop : Nat} (h : NoOpener t ⟨start, middle⟩)
    (h' : NoOpener t ⟨middle, stop⟩) : NoOpener t ⟨start, stop⟩ := by
  intro n line tag hLine hLe hLt
  rcases Nat.lt_or_ge n middle with hn | hn
  · exact h n line tag hLine hLe hn
  · exact h' n line tag hLine hn hLt

theorem NoOpener.unclosed_append {middle stop : Nat} (h : NoOpener t ⟨start, middle⟩)
    (hLe : start ≤ middle) (h' : Unclosed t ⟨middle, stop⟩) : Unclosed t ⟨start, stop⟩ := by
  intro n line tag hLine hFrom hLt hOpener hBefore
  rcases Nat.lt_or_ge n middle with hn | hn
  · exact absurd hOpener (h n line tag hLine hFrom hn)
  · refine h' n line tag hLine hn hLt hOpener ?_
    intro m other tag' hOther hm
    exact hBefore m other tag' hOther (Nat.le_trans hLe hm)

theorem noOpener_line {line : Text} (h : IsLine t start line) (hNone : openerTag? line = none) :
    NoOpener t ⟨start, start + line.byteSize⟩ := by
  intro n other tag hOther hLe hLt hOpener
  obtain ⟨-, rfl⟩ := h.eq_of_start_lt hOther hLe hLt
  rw [(openerTag?_eq_some_iff other tag).mpr hOpener] at hNone
  cases hNone

theorem IsCloser.size_pos {line : Text} (h : IsCloser line) :
    0 < (lineContent line).byteSize := by
  apply byteSize_pos
  intro hNil
  have hMark := IsOpener.stripped_eq h
  rw [stripped, hNil] at hMark
  cases hMark

/-- The line feed after a closer starts no line. -/
theorem noOpener_lineEnd {line : Text} (h : IsLine t start line) (hCloser : IsCloser line) :
    NoOpener t ⟨start + (lineContent line).byteSize,
      start + (lineContent line).byteSize + (lineEnd line).byteSize⟩ := by
  intro n other tag hOther hLe hLt _
  rw [Nat.add_assoc, ← byteSize_append, lineContent_append_lineEnd] at hLt
  have hFrom : start + (lineContent line).byteSize ≤ n := hLe
  have hPos := hCloser.size_pos
  have hStart : n = start := (h.eq_of_start_lt hOther (by omega) hLt).1
  omega

/-- The lines before the first closing line close nothing. -/
theorem splitAtCloser?_eq_some {ls body after : List Text} {closer : Text}
    (h : splitAtCloser? ls = some (body, closer, after)) :
    isCloser closer = true ∧ ∀ line ∈ body, isCloser line = false := by
  induction ls generalizing body with
  | nil => simp [splitAtCloser?] at h
  | cons line rest ih =>
    simp only [splitAtCloser?] at h
    split at h
    · next hLine =>
      simp only [Option.some.injEq, Prod.mk.injEq] at h
      obtain ⟨rfl, rfl, rfl⟩ := h
      exact ⟨hLine, by simp⟩
    · next hLine =>
      simp only [Option.map_eq_some_iff, Prod.mk.injEq, Prod.exists] at h
      obtain ⟨body', closer', after', h', rfl, rfl, rfl⟩ := h
      obtain ⟨hCloser, hBody⟩ := ih h'
      refine ⟨hCloser, ?_⟩
      intro l hl
      rcases List.mem_cons.mp hl with rfl | hl
      · exact Bool.eq_false_iff.mpr hLine
      · exact hBody l hl

theorem splitAtCloser?_eq_none {ls : List Text} (h : splitAtCloser? ls = none) :
    ∀ line ∈ ls, isCloser line = false := by
  induction ls with
  | nil => simp
  | cons line rest ih =>
    simp only [splitAtCloser?] at h
    split at h
    · cases h
    · next hLine =>
      intro l hl
      rcases List.mem_cons.mp hl with rfl | hl
      · exact Bool.eq_false_iff.mpr hLine
      · exact ih (Option.map_eq_none_iff.mp h) l hl

theorem not_isCloser {line : Text} (h : isCloser line = false) : ¬ IsCloser line := by
  intro hCloser
  rw [(isCloser_iff line).mpr hCloser] at h
  cases h

namespace IsBlock

variable {b : FencedRange}

theorem start_lt_stop (hb : IsBlock t b) : b.span.start < b.span.stop := by
  obtain ⟨line, hLine, -, -, hOpener⟩ := hb.opener
  obtain ⟨closer, -, -, hCloser⟩ := hb.closer
  have hOrder := hb.ordered
  have hPos := hLine.size_pos
  simp only [FencedRange.span]
  omega

theorem boundary (hb : IsBlock t b) : ∀ range ∈ (Region.fenced b).ranges,
    IsBoundary t range.start ∧ IsBoundary t range.stop := by
  obtain ⟨line, hLine, -, -, hOpener⟩ := hb.opener
  obtain ⟨closer, hCloserLine, -, hCloser⟩ := hb.closer
  have hOpenerStop : IsBoundary t b.opener.stop := hOpener ▸ hLine.isBoundary_stop
  have hCloserStop : IsBoundary t b.closer.stop :=
    hCloser ▸ hCloserLine.isBoundary_add (lineContent_append_lineEnd closer)
  simp only [Region.ranges, List.forall_mem_cons, hb.body]
  exact ⟨⟨hLine.isBoundary_start, hOpenerStop⟩, ⟨hOpenerStop, hCloserLine.isBoundary_start⟩,
    ⟨hCloserLine.isBoundary_start, hCloserStop⟩, by simp⟩

end IsBlock

theorem isReading_nil (t : Text) : IsReading t t.byteSize [] where
  tile := rfl
  boundary := by simp
  alternate := .nil
  block := by simp
  gap := by simp
  last := by simp

namespace IsReading

theorem cons {r : Region} {rs : List Region} (h : IsReading t r.span.stop rs)
    (hPos : r.span.start < r.span.stop)
    (hBoundary : ∀ range ∈ r.ranges, IsBoundary t range.start ∧ IsBoundary t range.stop)
    (hHead : ∀ s ∈ rs.head?, r.isFenced ≠ s.isFenced)
    (hBlock : ∀ b, .fenced b = r → IsBlock t b)
    (hGap : ∀ range, .markdown range = r → (∃ b, Region.fenced b ∈ rs) → NoOpener t range)
    (hLast : ∀ range, .markdown range = r → rs = [] → Unclosed t range) :
    IsReading t r.span.start (r :: rs) where
  tile := ⟨rfl, hPos, h.tile⟩
  boundary s hs := by
    rcases List.mem_cons.mp hs with rfl | hs
    · exact hBoundary
    · exact h.boundary s hs
  alternate := List.isChain_cons.mpr ⟨hHead, h.alternate⟩
  block b hb := by
    rcases List.mem_cons.mp hb with hEq | hb
    · exact hBlock b hEq
    · exact h.block b hb
  gap range rest hSuffix := by
    rcases List.suffix_cons_iff.mp hSuffix with hEq | hSuffix
    · obtain ⟨hRange, rfl⟩ := List.cons.inj hEq
      exact hGap range hRange
    · exact h.gap range rest hSuffix
  last range hSuffix := by
    rcases List.suffix_cons_iff.mp hSuffix with hEq | hSuffix
    · obtain ⟨hRange, hNil⟩ := List.cons.inj hEq
      exact hLast range hRange hNil.symm
    · exact h.last range hSuffix

theorem cons_markdown (range : ByteRange) {rs : List Region} (h : IsReading t range.stop rs)
    (hPos : range.start < range.stop)
    (hBoundary : IsBoundary t range.start ∧ IsBoundary t range.stop)
    (hHead : ∀ s ∈ rs.head?, s.isFenced = true)
    (hGap : (∃ b, Region.fenced b ∈ rs) → NoOpener t range)
    (hLast : rs = [] → Unclosed t range) :
    IsReading t range.start (.markdown range :: rs) := by
  refine @cons t (.markdown range) rs h hPos ?_ ?_ ?_ ?_ ?_
  · intro other hOther
    obtain rfl := List.mem_singleton.mp hOther
    exact hBoundary
  · intro s hs
    rw [hHead s hs]
    exact Bool.false_ne_true
  · intro b hb
    cases hb
  · intro other hOther
    cases hOther
    exact hGap
  · intro other hOther
    cases hOther
    exact hLast

theorem cons_fenced {b : FencedRange} {rs : List Region} (h : IsReading t b.closer.stop rs)
    (hb : IsBlock t b) (hHead : ∀ s ∈ rs.head?, s.isFenced = false) :
    IsReading t b.opener.start (.fenced b :: rs) := by
  refine @cons t (.fenced b) rs h hb.start_lt_stop hb.boundary ?_ ?_ ?_ ?_
  · intro s hs
    rw [hHead s hs]
    exact Bool.false_ne_true.symm
  · intro b' hb'
    cases hb'
    exact hb
  · intro range hRange
    cases hRange
  · intro range hRange
    cases hRange

theorem isFenced_of_head? {range : ByteRange} {rs : List Region}
    (h : IsReading t start (.markdown range :: rs)) : ∀ s ∈ rs.head?, s.isFenced = true := by
  intro s hs
  have hAlternate := (List.isChain_cons.mp h.alternate).1 s hs
  exact eq_true_of_ne_false (Ne.symm hAlternate)

/-- Markdown in which nothing opens a block can be put in front of a reading. -/
theorem consMarkdown {u : Text} {ps : List Piece} (hStart : IsBoundary t start)
    (hStop : IsBoundary t (start + u.byteSize))
    (hNone : NoOpener t ⟨start, start + u.byteSize⟩)
    (h : IsReading t (start + u.byteSize) (placeFrom (start + u.byteSize) ps)) :
    IsReading t start (placeFrom start (Piece.consMarkdown u ps)) := by
  by_cases hu : u = []
  · subst hu
    rw [Piece.consMarkdown_empty]
    exact h
  · have hPos : start < start + u.byteSize := Nat.lt_add_of_pos_right (byteSize_pos hu)
    -- without markdown to join it, `u` becomes a region of its own
    have hNew : (∀ s ∈ (placeFrom (start + u.byteSize) ps).head?, s.isFenced = true) →
        IsReading t start (placeFrom start (.markdown u :: ps)) := by
      intro hHead
      exact cons_markdown ⟨start, start + u.byteSize⟩ h hPos ⟨hStart, hStop⟩ hHead
        (fun _ => hNone) fun _ => hNone.unclosed
    cases ps with
    | nil =>
      rw [Piece.consMarkdown_nil hu]
      exact hNew (by simp [placeFrom])
    | cons p rest =>
      cases p with
      | fenced block =>
        rw [Piece.consMarkdown_fenced hu]
        exact hNew (by simp [placeFrom, Piece.place, Region.isFenced])
      | markdown v =>
        have hSize : start + byteSize (u ++ v) = start + u.byteSize + v.byteSize := by
          rw [byteSize_append, Nat.add_assoc]
        change IsReading t start (.markdown ⟨start, start + byteSize (u ++ v)⟩ ::
          placeFrom (start + byteSize (u ++ v)) rest)
        rw [hSize]
        refine cons_markdown ⟨start, start + u.byteSize + v.byteSize⟩ h.tail
          (Nat.lt_of_lt_of_le hPos (Nat.le_add_right _ _)) ⟨hStart, ?_⟩ h.isFenced_of_head? ?_ ?_
        · exact (h.boundary _ List.mem_cons_self _ List.mem_cons_self).2
        · exact fun hb => hNone.append (h.gap _ _ List.suffix_rfl hb)
        · exact fun _ => hNone.unclosed_append (Nat.le_add_right _ _) h.unclosed

end IsReading

/-- What follows a closer is markdown, if anything follows it. -/
theorem isFenced_head?_after {line : Text} {after : List Text}
    (h : LinesFrom t start (line :: after)) (n : Nat) :
    ∀ s ∈ (placeFrom n (Piece.consMarkdown (lineEnd line) (piecesOfLines after))).head?,
      s.isFenced = false := by
  by_cases hEnd : line.getLast? = some '\n'
  · have hFeed : lineEnd line = ['\n'] := if_pos hEnd
    rw [hFeed]
    rcases piecesOfLines after with _ | ⟨_ | _, rest⟩ <;>
      simp [Piece.consMarkdown, placeFrom, Piece.place, Region.isFenced]
  · have hNil : lineEnd line = [] := if_neg hEnd
    have hAfter : after = [] := by
      by_cases hMore : after = []
      · exact hMore
      · exact absurd (h.ends_with_feed hMore) hEnd
    simp [hNil, hAfter, piecesOfLines, Piece.consMarkdown, placeFrom]

theorem isBlock_of_split {line tag closer : Text} {body after : List Text}
    (h : LinesFrom t start (line :: (body ++ closer :: after)))
    (hTag : openerTag? line = some tag) (hCloser : isCloser closer = true)
    (hBody : ∀ l ∈ body, isCloser l = false) :
    IsBlock t ⟨tag, ⟨start, start + line.byteSize⟩,
      ⟨start + line.byteSize, start + line.byteSize + byteSize body.flatten⟩,
      ⟨start + line.byteSize + byteSize body.flatten,
        start + line.byteSize + byteSize body.flatten + (lineContent closer).byteSize⟩⟩ where
  opener := ⟨line, h.1, (openerTag?_eq_some_iff line tag).mp hTag,
    h.ends_with_feed (by simp), rfl⟩
  closer := ⟨closer, h.2.drop.1, (isCloser_iff closer).mp hCloser, rfl⟩
  body := rfl
  ordered := Nat.le_add_right _ _
  first n l hLine hLe hLt := not_isCloser (hBody l (h.2.mem_of_isLine hLine hLe hLt))

theorem unclosed_of_split {line tag : Text} {rest : List Text} {stop : Nat}
    (h : LinesFrom t start (line :: rest)) (hTag : openerTag? line = some tag)
    (hRest : ∀ l ∈ rest, isCloser l = false) : Unclosed t ⟨start, stop⟩ := by
  intro n other tag' hLine hLe hLt _ hBefore m closer hCloserLine hm
  have hOpener := (openerTag?_eq_some_iff line tag).mp hTag
  -- the line at the start is the first opening line, so `other` is that line
  have hStart : n = start := by
    by_cases hEq : n = start
    · exact hEq
    · exact absurd hOpener (hBefore start line tag h.1 (Nat.le_refl _)
        (Nat.lt_of_le_of_ne hLe (Ne.symm hEq)))
  subst hStart
  obtain rfl := h.1.unique hLine
  have hRestEnd : LinesFrom t (n + other.byteSize) (rest ++ []) := by
    rw [List.append_nil]
    exact h.2
  have hSize := h.2.size_eq
  have hBound := hCloserLine.start_lt
  exact not_isCloser (hRest closer (hRestEnd.mem_of_isLine hCloserLine hm (by omega)))

theorem isReading_piecesOfLines {ls : List Text} (h : LinesFrom t start ls) :
    IsReading t start (placeFrom start (piecesOfLines ls)) := by
  fun_induction piecesOfLines ls generalizing start with
  | case1 =>
    have hStart : start = t.byteSize := h
    rw [hStart]
    exact isReading_nil t
  | case2 line rest hNone ih =>
    exact IsReading.consMarkdown h.1.isBoundary_start h.1.isBoundary_stop
      (noOpener_line h.1 hNone) (ih h.2)
  | case3 line rest tag hTag hSplit =>
    have hSize : start + byteSize (line ++ rest.flatten) = t.byteSize := h.size_eq
    have hStart := h.1.start_lt
    have hne : line ++ rest.flatten ≠ [] := by
      intro hNil
      rw [hNil, byteSize_nil] at hSize
      omega
    rw [Piece.consMarkdown_nil hne]
    change IsReading t start [.markdown ⟨start, start + byteSize (line ++ rest.flatten)⟩]
    rw [hSize]
    exact IsReading.cons_markdown ⟨start, t.byteSize⟩ (isReading_nil t) hStart
      ⟨h.1.isBoundary_start, isBoundary_size t⟩ (by simp) (by simp)
      fun _ => unclosed_of_split h hTag (splitAtCloser?_eq_none hSplit)
  | case4 line rest tag hTag body closer after hSplit ih =>
    obtain rfl := eq_of_splitAtCloser? hSplit
    obtain ⟨hCloser, hBody⟩ := splitAtCloser?_eq_some hSplit
    have hBlock := isBlock_of_split h hTag hCloser hBody
    have hLines := h.2.drop
    have hStop : start + line.byteSize + byteSize body.flatten + (lineContent closer).byteSize +
        (lineEnd closer).byteSize =
        start + line.byteSize + byteSize body.flatten + closer.byteSize := by
      rw [Nat.add_assoc, ← byteSize_append, lineContent_append_lineEnd]
    have hBoundary := (hBlock.boundary _ (List.mem_cons_of_mem _ (List.mem_cons_of_mem _
      List.mem_cons_self))).2
    have hAfter := ih hLines.2
    rw [← hStop] at hAfter
    have hTail := hAfter.consMarkdown hBoundary (hStop ▸ hLines.1.isBoundary_stop)
      (noOpener_lineEnd hLines.1 ((isCloser_iff closer).mp hCloser))
    have hText : start + byteSize (line ++ body.flatten ++ lineContent closer) =
        start + line.byteSize + byteSize body.flatten + (lineContent closer).byteSize := by
      simp only [byteSize_append, Nat.add_assoc]
    change IsReading t start (.fenced _ ::
      placeFrom (start + byteSize (line ++ body.flatten ++ lineContent closer)) _)
    rw [hText]
    exact hTail.cons_fenced hBlock (isFenced_head?_after hLines _)

theorem isReading_regions (t : Text) : IsReading t 0 (regions t) :=
  isReading_piecesOfLines (linesFrom_lines t)

/-- The regions that scanning finds are the one and only reading of the text. -/
theorem isReading_iff_eq_regions (t : Text) (rs : List Region) :
    IsReading t 0 rs ↔ rs = regions t := by
  constructor
  · intro h
    exact h.unique (isReading_regions t)
  · rintro rfl
    exact isReading_regions t

example : regions "a\n\x60\x60\x60js\nx\n\x60\x60\x60\r\n\x60\x60\x60".toList =
    [.markdown ⟨0, 2⟩, .fenced ⟨['j', 's'], ⟨2, 8⟩, ⟨8, 10⟩, ⟨10, 14⟩⟩, .markdown ⟨14, 18⟩] := by
  cbv

end Fence

end MarkdownEditor
