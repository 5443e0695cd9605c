import Mathlib.Data.List.Forall2
import MarkdownEditor.Proofs.Fence.Append

/-!
# Line ends of two kinds

A text whose lines end in a line feed can be given lines that end in a carriage return and
a line feed. The lines stay the same lines, the scanner sees through the carriage returns,
and so it finds the same blocks. All parts of a block change in the way the whole text
does, except that the closing line, which goes without its line feed, keeps the carriage
return alone.
-/

namespace MarkdownEditor

set_option autoImplicit false

namespace Text

/-- The text with a carriage return in front of every line feed. -/
def crlf (t : Text) : Text := t.flatMap fun c => if c = '\n' then ['\r', '\n'] else [c]

@[simp] theorem crlf_nil : crlf [] = [] := rfl

theorem crlf_feed (t : Text) : crlf ('\n' :: t) = '\r' :: '\n' :: crlf t := rfl

theorem crlf_cons {c : Char} (hc : c ≠ '\n') (t : Text) : crlf (c :: t) = c :: crlf t := by
  rw [crlf, List.flatMap_cons, if_neg hc]
  rfl

theorem crlf_append (s t : Text) : crlf (s ++ t) = crlf s ++ crlf t := List.flatMap_append

theorem crlf_flatten (ls : List Text) : crlf ls.flatten = (ls.map crlf).flatten := by
  induction ls with
  | nil => rfl
  | cons l ls ih => rw [List.flatten_cons, crlf_append, ih, List.map_cons, List.flatten_cons]

theorem crlf_of_not_mem {t : Text} (h : '\n' ∉ t) : crlf t = t := by
  induction t with
  | nil => rfl
  | cons c t ih =>
    obtain ⟨hc, ht⟩ := not_or.mp (fun hMem => h (List.mem_cons.mpr hMem))
    rw [crlf_cons (Ne.symm hc), ih ht]

theorem lines_crlf (t : Text) : lines (crlf t) = (lines t).map crlf := by
  induction t with
  | nil => rfl
  | cons c t ih =>
    by_cases hc : c = '\n'
    · subst hc
      simp [crlf_feed, lines, ih]
    · rw [crlf_cons hc, lines, lines, if_neg hc, if_neg hc, ih]
      cases lines t with
      | nil => simp [crlf_cons hc]
      | cons l ls => simp [crlf_cons hc]

/-- The line has no carriage return, and a line feed at its end at most. -/
structure IsPlain (line : Text) : Prop where
  single : '\n' ∉ line.dropLast
  noReturn : '\r' ∉ line

namespace IsPlain

variable {line : Text}

theorem not_feed_mem_lineContent (h : IsPlain line) : '\n' ∉ lineContent line := by
  unfold lineContent
  split
  · exact h.single
  · next hEnd =>
    intro hMem
    have hne : line ≠ [] := List.ne_nil_of_mem hMem
    rw [← List.dropLast_concat_getLast hne] at hMem
    rcases List.mem_append.mp hMem with hMem | hMem
    · exact h.single hMem
    · apply hEnd
      rw [List.getLast?_eq_some_getLast hne, List.mem_singleton.mp hMem]

theorem not_return_mem_lineContent (h : IsPlain line) : '\r' ∉ lineContent line := by
  intro hMem
  apply h.noReturn
  rw [← lineContent_append_lineEnd line]
  exact List.mem_append_left _ hMem

/-- Only the end of a line changes. -/
theorem crlf_eq (h : IsPlain line) : crlf line = lineContent line ++ crlf (lineEnd line) := by
  have hLine := congrArg crlf (lineContent_append_lineEnd line)
  rwa [crlf_append, crlf_of_not_mem h.not_feed_mem_lineContent, eq_comm] at hLine

theorem lineContent_crlf (h : IsPlain line) :
    lineContent (crlf line) =
      lineContent line ++ if line.getLast? = some '\n' then ['\r'] else [] := by
  rw [h.crlf_eq, lineEnd]
  split
  · next hEnd =>
    have hInit : (lineContent line ++ ['\r', '\n']).dropLast = lineContent line ++ ['\r'] := by
      rw [List.dropLast_append_of_ne_nil (List.cons_ne_nil _ _)]
      rfl
    rw [crlf_feed, crlf_nil, lineContent, if_pos (by simp), hInit]
  · next hEnd =>
    have hContent : lineContent line = line := by rw [lineContent, if_neg hEnd]
    rw [crlf_nil, List.append_nil, hContent, hContent]

end IsPlain

end Text

namespace Fence

open Text

/-- The scanner reads the same on a line with either end. -/
theorem stripped_crlf {line : Text} (h : IsPlain line) : stripped (crlf line) = stripped line := by
  have hFeed : (lineContent line).getLast? ≠ some '\n' :=
    fun hLast => h.not_feed_mem_lineContent (List.mem_of_getLast? hLast)
  have hReturn : (lineContent line).getLast? ≠ some '\r' :=
    fun hLast => h.not_return_mem_lineContent (List.mem_of_getLast? hLast)
  have hStripped {ending : Text} (hEnding : ending ∈ endings) :
      stripped (lineContent line ++ ending) = lineContent line :=
    stripped_append hEnding hFeed hReturn
  have hEnds : lineEnd line ∈ endings ∧ crlf (lineEnd line) ∈ endings := by
    rcases lineEnd_eq line with hEnd | hEnd <;> rw [hEnd] <;> decide
  have hLine := hStripped hEnds.1
  rw [lineContent_append_lineEnd] at hLine
  rw [h.crlf_eq, hStripped hEnds.2, hLine]

theorem openerTag?_crlf {line : Text} (h : IsPlain line) :
    openerTag? (crlf line) = openerTag? line := by
  rw [openerTag?_eq, openerTag?_eq, stripped_crlf h]

theorem isCloser_crlf {line : Text} (h : IsPlain line) : isCloser (crlf line) = isCloser line :=
  congrArg (· == mark) (stripped_crlf h)

theorem isPlain_of_linesFrom {t : Text} {start : Nat} {ls : List Text} (h : LinesFrom t start ls)
    (hReturn : '\r' ∉ t) {line : Text} (hMem : line ∈ ls) : IsPlain line := by
  rw [← List.append_nil ls] at h
  obtain ⟨n, ⟨before, after, rfl, -, -, hFirst⟩, -⟩ := h.exists_isLine hMem
  refine ⟨hFirst.single, fun hLine => hReturn ?_⟩
  exact List.mem_append_right before (List.mem_append_left after hLine)

end Fence

open Text in
/-- In the text with carriage returns, `b'` is what the block `b` is in `t`. -/
structure FencedRange.IsCrlfOf (t : Text) (b b' : FencedRange) : Prop where
  tag : b'.tag = b.tag
  start : b'.opener.start = byteSize (crlf (t.take (t.charOffset b.opener.start)))
  opener : b'.opener.slice t.crlf = (b.opener.slice t).crlf
  body : b'.body.slice t.crlf = (b.body.slice t).crlf
  /-- The carriage return stands exactly where a line feed follows the block. -/
  closer : b'.closer.slice t.crlf =
    b.closer.slice t ++ if t[t.charOffset b.closer.stop]? = some '\n' then ['\r'] else []

namespace Fence

open Text

variable {t before tag line closer : Text} {body after ls : List Text}

theorem cut_blockAt (tag : Text) (ht : t = before ++ (line :: (body ++ closer :: after)).flatten) :
    (blockAt before.byteSize tag line body closer).cut t =
      ⟨tag, line, body.flatten, lineContent closer⟩ := by
  have hCut := cut_place before (lineEnd closer ++ after.flatten)
    (.fenced ⟨tag, line, body.flatten, lineContent closer⟩)
  rw [flatten_block tag] at ht
  rw [ht, ← List.append_assoc]
  exact Piece.fenced.inj hCut

/-- After the closing line comes its line feed, or else nothing. -/
theorem getElem?_stop_blockAt (ht : t = before ++ (line :: (body ++ closer :: after)).flatten)
    (hAfter : after ≠ [] → closer.getLast? = some '\n') :
    t[t.charOffset (blockAt before.byteSize tag line body closer).closer.stop]? = some '\n' ↔
      closer.getLast? = some '\n' := by
  have hStop : (blockAt before.byteSize tag line body closer).closer.stop =
      byteSize (before ++ FencedBlock.text ⟨tag, line, body.flatten, lineContent closer⟩) := by
    simp only [blockAt, FencedBlock.text, byteSize_append, Nat.add_assoc]
  rw [flatten_block tag, ← List.append_assoc] at ht
  rw [hStop, ht, charOffset_append_byteSize, List.getElem?_append_right (Nat.le_refl _),
    Nat.sub_self]
  by_cases hEnd : closer.getLast? = some '\n'
  · simp [lineEnd, hEnd]
  · have hNil : after = [] := by
      by_contra hMore
      exact hEnd (hAfter hMore)
    simp [lineEnd, hEnd, hNil]

theorem isCrlfOf_blockAt (ht : t = before ++ (line :: (body ++ closer :: after)).flatten)
    (hAfter : after ≠ [] → closer.getLast? = some '\n') (hCloser : IsPlain closer) :
    FencedRange.IsCrlfOf t (blockAt before.byteSize tag line body closer)
      (blockAt before.crlf.byteSize tag line.crlf (body.map crlf) closer.crlf) := by
  have ht' : t.crlf = before.crlf ++
      (line.crlf :: (body.map crlf ++ closer.crlf :: after.map crlf)).flatten := by
    rw [ht, crlf_append, crlf_flatten, List.map_cons, List.map_append, List.map_cons]
  have hCut := cut_blockAt tag ht
  have hCut' := cut_blockAt tag ht'
  constructor
  · rfl
  · rw [ht]
    change _ = byteSize (crlf (List.take (charOffset _ before.byteSize) _))
    rw [charOffset_append_byteSize, List.take_left]
    rfl
  · exact (congrArg FencedBlock.opener hCut').trans
      (congrArg (crlf ∘ FencedBlock.opener) hCut).symm
  · refine (congrArg FencedBlock.body hCut').trans ?_
    refine (crlf_flatten body).symm.trans ?_
    exact (congrArg (crlf ∘ FencedBlock.body) hCut).symm
  · have hSlice : (blockAt before.byteSize tag line body closer).closer.slice t =
        lineContent closer := congrArg FencedBlock.closer hCut
    refine (congrArg FencedBlock.closer hCut').trans ?_
    rw [hSlice, hCloser.lineContent_crlf]
    simp only [getElem?_stop_blockAt ht hAfter]

/-- The scanner is followed over the lines of both texts at once. Whole lines correspond, so
what it has read of the one text is always `before` and of the other `before.crlf`. -/
theorem forall₂_rangesFrom_crlf (ht : t = before ++ ls.flatten)
    (hLines : LinesFrom t before.byteSize ls) (hReturn : '\r' ∉ t) :
    List.Forall₂ (FencedRange.IsCrlfOf t) (rangesFrom before.byteSize ls)
      (rangesFrom before.crlf.byteSize (ls.map crlf)) := by
  induction ls using piecesOfLines.induct generalizing before with
  | case1 =>
    rw [List.map_nil, rangesFrom_nil, rangesFrom_nil]
    exact .nil
  | case2 line rest hTag ih =>
    have hPlain := isPlain_of_linesFrom hLines hReturn List.mem_cons_self
    have hText : t = before ++ line ++ rest.flatten := by
      rw [ht, List.flatten_cons, List.append_assoc]
    have hRest := ih hText (by rw [byteSize_append]; exact hLines.2)
    rw [crlf_append, byteSize_append, byteSize_append] at hRest
    rwa [List.map_cons, rangesFrom_cons_of_none hTag,
      rangesFrom_cons_of_none ((openerTag?_crlf hPlain).trans hTag)]
  | case3 line rest tag hTag hSplit =>
    have hPlain {l : Text} (hl : l ∈ line :: rest) := isPlain_of_linesFrom hLines hReturn hl
    have hRest := splitAtCloser?_eq_none hSplit
    rw [List.map_cons, rangesFrom_of_unclosed hTag hRest,
      rangesFrom_of_unclosed ((openerTag?_crlf (hPlain List.mem_cons_self)).trans hTag)]
    · exact .nil
    · intro l' hl'
      obtain ⟨l, hl, rfl⟩ := List.mem_map.mp hl'
      rw [isCloser_crlf (hPlain (List.mem_cons_of_mem line hl)), hRest l hl]
  | case4 line rest tag hTag body closer after hSplit ih =>
    obtain rfl := eq_of_splitAtCloser? hSplit
    obtain ⟨hCloser, hBody⟩ := splitAtCloser?_eq_some hSplit
    have hPlain {l : Text} (hl : l ∈ line :: (body ++ closer :: after)) :=
      isPlain_of_linesFrom hLines hReturn hl
    have hPlainCloser : IsPlain closer := hPlain (by simp)
    have hTag' := (openerTag?_crlf (hPlain List.mem_cons_self)).trans hTag
    have hCloser' := (isCloser_crlf hPlainCloser).trans hCloser
    have hBody' : ∀ l' ∈ body.map crlf, isCloser l' = false := by
      intro l' hl'
      obtain ⟨l, hl, rfl⟩ := List.mem_map.mp hl'
      have hMem : l ∈ line :: (body ++ closer :: after) :=
        List.mem_cons_of_mem line (List.mem_append_left _ hl)
      rw [isCloser_crlf (hPlain hMem), hBody l hl]
    -- the lines of the block are whole, so what comes after them corresponds again
    have hFront : line :: (body ++ closer :: after) = line :: (body ++ [closer]) ++ after := by simp
    have hText : t = before ++ (line :: (body ++ [closer])).flatten ++ after.flatten := by
      rw [ht, hFront, List.flatten_append, List.append_assoc]
    have hRest := ih hText (by rw [byteSize_append]; exact LinesFrom.drop (hFront ▸ hLines))
    have hAfter : after ≠ [] → closer.getLast? = some '\n' := hLines.2.drop.ends_with_feed
    rw [crlf_append, crlf_flatten, byteSize_append, byteSize_append, List.map_cons, List.map_append,
      List.map_singleton] at hRest
    rw [rangesFrom_of_closed hTag hBody hCloser, List.map_cons, List.map_append, List.map_cons,
      rangesFrom_of_closed hTag' hBody' hCloser']
    exact .cons (isCrlfOf_blockAt ht hAfter hPlainCloser) hRest

/-- Carriage returns in front of all line feeds leave the blocks of a text as they are. -/
theorem forall₂_blockRanges_crlf (hReturn : '\r' ∉ t) :
    List.Forall₂ (FencedRange.IsCrlfOf t) (blockRanges t) (blockRanges t.crlf) := by
  have hText : t = [] ++ t.lines.flatten := (flatten_lines t).symm
  have h := forall₂_rangesFrom_crlf hText (linesFrom_lines t) hReturn
  rw [← lines_crlf] at h
  exact h

/-- A block that ends in the middle of the text, one at its end, and an opener in between that
is body text. -/
theorem forall₂_blockRanges_crlf_twoBlocks :
    '\r' ∉ "å\n\x60\x60\x60js\nx\n\x60\x60\x60\n\n\x60\x60\x60\n\x60\x60\x60a\n\x60\x60\x60".toList ∧
    List.Forall₂
      (FencedRange.IsCrlfOf
        "å\n\x60\x60\x60js\nx\n\x60\x60\x60\n\n\x60\x60\x60\n\x60\x60\x60a\n\x60\x60\x60".toList)
      [⟨['j', 's'], ⟨3, 9⟩, ⟨9, 11⟩, ⟨11, 14⟩⟩, ⟨[], ⟨16, 20⟩, ⟨20, 25⟩, ⟨25, 28⟩⟩]
      [⟨['j', 's'], ⟨4, 11⟩, ⟨11, 14⟩, ⟨14, 18⟩⟩, ⟨[], ⟨21, 26⟩, ⟨26, 32⟩, ⟨32, 35⟩⟩] := by
  have hReturn : '\r' ∉
      "å\n\x60\x60\x60js\nx\n\x60\x60\x60\n\n\x60\x60\x60\n\x60\x60\x60a\n\x60\x60\x60".toList := by
    decide
  have h := forall₂_blockRanges_crlf hReturn
  refine ⟨hReturn, ?_⟩
  convert h using 1
  · decide +kernel
  · decide +kernel

end Fence

end MarkdownEditor
