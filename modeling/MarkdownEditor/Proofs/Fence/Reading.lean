import Mathlib.Data.List.Chain
import MarkdownEditor.Proofs.Fence.Line
import MarkdownEditor.Proofs.Text.Line

/-!
# The grammar of fenced code

`IsReading t 0 rs` says what the regions of a text have to be, without scanning
it: they tile the text, markdown and blocks take turns, a block is an opening
line, a body and the first closing line after it, and whatever stands in
markdown could not have begun a block. A text has at most one such reading.
-/

namespace MarkdownEditor

set_option autoImplicit false

namespace Region

def span : Region → ByteRange
  | .markdown range => range
  | .fenced b => b.span

def isFenced : Region → Bool
  | .markdown _ => false
  | .fenced _ => true

/-- The ranges a region names. -/
def ranges : Region → List ByteRange
  | .markdown range => [range]
  | .fenced b => [b.opener, b.body, b.closer]

/-- The regions cover the bytes from `start` up to `stop` in their order, with no gap,
no overlap and no empty region. -/
def Tile (stop : Nat) : Nat → List Region → Prop
  | start, [] => start = stop
  | start, r :: rs => r.span.start = start ∧ start < r.span.stop ∧ Tile stop r.span.stop rs

theorem Tile.le {stop start : Nat} {rs : List Region} (h : Tile stop start rs) : start ≤ stop := by
  induction rs generalizing start with
  | nil => exact Nat.le_of_eq h
  | cons r rs ih =>
    have := ih h.2.2
    have := h.2.1
    omega

end Region

namespace Fence

open Text

/-- The opener is a whole line with its line feed, the closer is the first closing line
after it, without its line feed, and the body is all that stands between the two. -/
structure IsBlock (t : Text) (b : FencedRange) : Prop where
  opener : ∃ line, IsLine t b.opener.start line ∧ IsOpener line b.tag ∧
    line.getLast? = some '\n' ∧ b.opener.stop = b.opener.start + line.byteSize
  closer : ∃ line, IsLine t b.closer.start line ∧ IsCloser line ∧
    b.closer.stop = b.closer.start + (lineContent line).byteSize
  body : b.body = ⟨b.opener.stop, b.closer.start⟩
  ordered : b.opener.stop ≤ b.closer.start
  first : ∀ start line, IsLine t start line → b.opener.stop ≤ start →
    start < b.closer.start → ¬ IsCloser line

/-- No line that starts in the range opens a block. -/
def NoOpener (t : Text) (range : ByteRange) : Prop :=
  ∀ start line tag, IsLine t start line → range.start ≤ start → start < range.stop →
    ¬ IsOpener line tag

/-- No line from byte `start` on closes a block. -/
def NoCloserFrom (t : Text) (start : Nat) : Prop :=
  ∀ n line, IsLine t n line → start ≤ n → ¬ IsCloser line

/-- The first opening line in the range, if there is one, has no closing line after it. -/
def Unclosed (t : Text) (range : ByteRange) : Prop :=
  ∀ start line tag, IsLine t start line → range.start ≤ start → start < range.stop →
    IsOpener line tag → NoOpener t ⟨range.start, start⟩ → NoCloserFrom t (start + line.byteSize)

/-- The regions are what the grammar makes of `t` from byte `start` on. -/
structure IsReading (t : Text) (start : Nat) (rs : List Region) : Prop where
  tile : Region.Tile t.byteSize start rs
  boundary : ∀ r ∈ rs, ∀ range ∈ r.ranges, IsBoundary t range.start ∧ IsBoundary t range.stop
  alternate : rs.IsChain fun r s => r.isFenced ≠ s.isFenced
  block : ∀ b, Region.fenced b ∈ rs → IsBlock t b
  gap : ∀ range rest, Region.markdown range :: rest <:+ rs →
    (∃ b, Region.fenced b ∈ rest) → NoOpener t range
  last : ∀ range, [Region.markdown range] <:+ rs → Unclosed t range

section Unique

variable {t : Text} {start : Nat} {r : Region} {range : ByteRange} {b : FencedRange}
  {rs : List Region}

theorem NoOpener.unclosed (h : NoOpener t range) : Unclosed t range := by
  intro start line tag hLine hLe hLt hOpener
  exact absurd hOpener (h start line tag hLine hLe hLt)

theorem noOpener_empty (n : Nat) : NoOpener t ⟨n, n⟩ := by
  intro start line tag hLine hLe hLt
  exact absurd hLe (Nat.not_le.mpr hLt)

/-- The opener of a block cannot stand in markdown that ends the text. -/
theorem IsBlock.not_unclosed (hb : IsBlock t b) (hLe : range.start ≤ b.opener.start)
    (hLt : b.opener.start < range.stop) (hBefore : NoOpener t ⟨range.start, b.opener.start⟩) :
    ¬ Unclosed t range := by
  intro h
  obtain ⟨line, hLine, hOpener, -, hStop⟩ := hb.opener
  obtain ⟨closer, hCloserLine, hCloser, -⟩ := hb.closer
  have hAfter : b.opener.start + line.byteSize ≤ b.closer.start := hStop ▸ hb.ordered
  exact h _ line b.tag hLine hLe hLt hOpener hBefore _ closer hCloserLine hAfter hCloser

/-- Where a block starts decides all of it. -/
theorem IsBlock.unique {b' : FencedRange} (h : IsBlock t b) (h' : IsBlock t b')
    (hStart : b.opener.start = b'.opener.start) : b = b' := by
  obtain ⟨line, hLine, hOpener, -, hStop⟩ := h.opener
  obtain ⟨line', hLine', hOpener', -, hStop'⟩ := h'.opener
  obtain ⟨closer, hCloserLine, hCloser, hEnd⟩ := h.closer
  obtain ⟨closer', hCloserLine', hCloser', hEnd'⟩ := h'.closer
  obtain rfl : line' = line := hLine.unique (hStart ▸ hLine')
  have hTag : b.tag = b'.tag := hOpener.unique hOpener'
  have hStops : b.opener.stop = b'.opener.stop := by rw [hStop, hStop', hStart]
  -- the earlier of two closers would stand in the body of the block with the later one
  have hClosers : b.closer.start = b'.closer.start := by
    rcases Nat.lt_trichotomy b.closer.start b'.closer.start with hLt | hEq | hLt
    · exact absurd hCloser (h'.first _ closer hCloserLine (hStops ▸ h.ordered) hLt)
    · exact hEq
    · exact absurd hCloser' (h.first _ closer' hCloserLine' (hStops ▸ h'.ordered) hLt)
  obtain rfl : closer' = closer := hCloserLine.unique (hClosers ▸ hCloserLine')
  have hEnds : b.closer.stop = b'.closer.stop := by rw [hEnd, hEnd', hClosers]
  have hBody : b.body = b'.body := by rw [h.body, h'.body, hStops, hClosers]
  obtain ⟨tag, ⟨o, p⟩, body, ⟨c, d⟩⟩ := b
  obtain ⟨tag', ⟨o', p'⟩, body', ⟨c', d'⟩⟩ := b'
  simp_all

namespace IsReading

theorem tail (h : IsReading t start (r :: rs)) : IsReading t r.span.stop rs where
  tile := h.tile.2.2
  boundary s hs := h.boundary s (List.mem_cons_of_mem r hs)
  alternate := (List.isChain_cons.mp h.alternate).2
  block b hb := h.block b (List.mem_cons_of_mem r hb)
  gap range rest hSuffix := h.gap range rest (List.suffix_cons_iff.mpr (.inr hSuffix))
  last range hSuffix := h.last range (List.suffix_cons_iff.mpr (.inr hSuffix))

/-- After markdown that does not end the text stands a block. -/
theorem exists_fenced (h : IsReading t start (.markdown range :: rs))
    (hLt : range.stop < t.byteSize) :
    ∃ b rest, rs = .fenced b :: rest ∧ b.opener.start = range.stop := by
  cases rs with
  | nil => exact absurd h.tail.tile (Nat.ne_of_lt hLt)
  | cons s rest =>
    have hAlternate := (List.isChain_cons.mp h.alternate).1 s rfl
    cases s with
    | markdown other => exact absurd rfl hAlternate
    | fenced b => exact ⟨b, rest, rfl, h.tail.tile.1⟩

theorem noOpener {rest : List Region}
    (h : IsReading t start (.markdown range :: .fenced b :: rest)) : NoOpener t range :=
  h.gap range _ List.suffix_rfl ⟨b, List.mem_cons_self⟩

theorem unclosed (h : IsReading t start (.markdown range :: rs)) : Unclosed t range := by
  cases rs with
  | nil => exact h.last range List.suffix_rfl
  | cons s rest =>
    have hAlternate := (List.isChain_cons.mp h.alternate).1 s rfl
    cases s with
    | markdown other => exact absurd rfl hAlternate
    | fenced b => exact h.noOpener.unclosed

theorem not_markdown_and_fenced {rs' : List Region}
    (h : IsReading t start (.markdown range :: rs)) (h' : IsReading t start (.fenced b :: rs')) :
    False := by
  have hStart : range.start = start := h.tile.1
  have hStart' : b.opener.start = start := h'.tile.1
  have hPos : start < range.stop := h.tile.2.1
  refine (h'.block b List.mem_cons_self).not_unclosed ?_ ?_ ?_ h.unclosed
  · omega
  · omega
  · rw [hStart, hStart']
    exact noOpener_empty start

/-- Markdown goes on at least as far as in any other reading. -/
theorem stop_le {range' : ByteRange} {rs' : List Region}
    (h : IsReading t start (.markdown range :: rs))
    (h' : IsReading t start (.markdown range' :: rs')) : range'.stop ≤ range.stop := by
  by_cases hLt : range.stop < range'.stop
  · have hStart : range.start = start := h.tile.1
    have hStart' : range'.start = start := h'.tile.1
    have hPos : start < range.stop := h.tile.2.1
    have hSize : range'.stop ≤ t.byteSize := h'.tail.tile.le
    obtain ⟨b, rest, rfl, hBlock⟩ := h.exists_fenced (Nat.lt_of_lt_of_le hLt hSize)
    have hBefore : NoOpener t ⟨range'.start, b.opener.start⟩ := by
      rw [hStart', hBlock, ← hStart]
      exact h.noOpener
    have hb : IsBlock t b := h.block b (by simp)
    exact absurd h'.unclosed (hb.not_unclosed (by omega) (by omega) hBefore)
  · omega

/-- A text has at most one reading. -/
theorem unique {rs' : List Region} (h : IsReading t start rs) (h' : IsReading t start rs') :
    rs = rs' := by
  induction rs generalizing start rs' with
  | nil =>
    cases rs' with
    | nil => rfl
    | cons s rest' =>
      have := h'.tile.2.1
      have := h'.tail.tile.le
      have : start = t.byteSize := h.tile
      omega
  | cons r rest ih =>
    cases rs' with
    | nil =>
      have := h.tile.2.1
      have := h.tail.tile.le
      have : start = t.byteSize := h'.tile
      omega
    | cons s rest' =>
      have hSame : r = s := by
        have hStart : r.span.start = start := h.tile.1
        have hStart' : s.span.start = start := h'.tile.1
        cases r with
        | markdown range =>
          cases s with
          | markdown range' =>
            have hStop := Nat.le_antisymm (h'.stop_le h) (h.stop_le h')
            have hRange : range.start = range'.start := hStart.trans hStart'.symm
            cases range
            cases range'
            simp_all
          | fenced b => exact (h.not_markdown_and_fenced h').elim
        | fenced b =>
          cases s with
          | markdown range' => exact (h'.not_markdown_and_fenced h).elim
          | fenced b' =>
            have hb := (h.block b List.mem_cons_self).unique (h'.block b' List.mem_cons_self)
              (hStart.trans hStart'.symm)
            rw [hb]
      subst hSame
      rw [ih h.tail h'.tail]

end IsReading

end Unique

end Fence

end MarkdownEditor
