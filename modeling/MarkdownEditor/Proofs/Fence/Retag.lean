import MarkdownEditor.Proofs.Fence.Append

/-!
# Another tag for one block

The opening line of a block can be exchanged for any other opening line. The scanner comes
to it in the same way, finds the same body and closing line after it, and goes on from there
as before. So with another tag a block keeps its place among the pieces of the text.
-/

namespace MarkdownEditor

set_option autoImplicit false

open Text

variable {t line tag : Text} {front back : List Piece} {block : FencedBlock}

/-- A block stands behind the markdown that is put in front of some pieces, and its exchange
for another block leaves that markdown as it is. -/
theorem Piece.exists_of_consMarkdown {ps : List Piece} {u : Text}
    (h : consMarkdown u ps = front ++ .fenced block :: back) :
    ∃ front', ps = front' ++ .fenced block :: back ∧ u ++ front'.flatMap text = front.flatMap text ∧
      ∀ other, consMarkdown u (front' ++ .fenced other :: back) = front ++ .fenced other :: back := by
  by_cases hu : u = []
  · subst hu
    rw [consMarkdown_empty] at h
    exact ⟨front, h, rfl, fun other => consMarkdown_empty _⟩
  · rcases ps with _ | ⟨v | other, ps⟩
    · rw [consMarkdown_nil hu] at h
      rcases front with _ | ⟨p, _ | ⟨q, front⟩⟩ <;> cases h
    · rcases front with _ | ⟨p, front⟩
      · cases h
      · obtain ⟨rfl, rfl⟩ := List.cons.inj h
        refine ⟨.markdown v :: front, rfl, ?_, fun other => rfl⟩
        simp only [List.flatMap_cons, text, List.append_assoc]
    · rw [consMarkdown_fenced hu] at h
      rcases front with _ | ⟨p, front⟩
      · cases h
      · obtain ⟨rfl, hRest⟩ := List.cons.inj h
        refine ⟨front, hRest, rfl, ?_⟩
        intro other'
        rcases front with _ | ⟨q, front⟩
        · exact consMarkdown_fenced hu other' back
        · obtain ⟨rfl, -⟩ := List.cons.inj hRest
          exact consMarkdown_fenced hu other _

namespace Fence

/-- The opening line of a block may be exchanged for another opening line. -/
theorem exists_of_piecesOfLines {ls : List Text}
    (h : piecesOfLines ls = front ++ .fenced block :: back) :
    ∃ before after, ls = before ++ block.opener :: after ∧ after ≠ [] ∧
      openerTag? block.opener = some block.tag ∧ before.flatten = front.flatMap Piece.text ∧
      ∀ line tag, openerTag? line = some tag → piecesOfLines (before ++ line :: after) =
        front ++ .fenced { block with tag := tag, opener := line } :: back := by
  fun_induction piecesOfLines ls generalizing front with
  | case1 => cases front <;> cases h
  | case2 line rest hNone ih =>
    obtain ⟨front', hRest, hText, hOther⟩ := Piece.exists_of_consMarkdown h
    obtain ⟨before, after, rfl, hAfter, hTag, hBefore, hLines⟩ := ih hRest
    refine ⟨line :: before, after, rfl, hAfter, hTag, ?_, ?_⟩
    · rw [List.flatten_cons, hBefore, hText]
    · intro line' tag' hTag'
      rw [List.cons_append, piecesOfLines, hNone]
      exact (congrArg _ (hLines line' tag' hTag')).trans (hOther _)
  | case3 line rest tag hTag hSplit =>
    obtain ⟨front', hNil, -⟩ := Piece.exists_of_consMarkdown h
    cases front' <;> cases hNil
  | case4 line rest tag hTag body closer after hSplit ih =>
    obtain rfl := eq_of_splitAtCloser? hSplit
    obtain ⟨hCloser, hBody⟩ := splitAtCloser?_eq_some hSplit
    -- the block is the one that opens here, or it stands behind that one
    rcases front with _ | ⟨p, front⟩
    · obtain ⟨hBlock, rfl⟩ := List.cons.inj h
      cases hBlock
      refine ⟨[], body ++ closer :: after, rfl, by simp, hTag, rfl, ?_⟩
      intro line' tag' hTag'
      exact piecesOfLines_of_closed hTag' hBody hCloser
    · obtain ⟨rfl, hRest⟩ := List.cons.inj h
      obtain ⟨front', hRest', hText, hOther⟩ := Piece.exists_of_consMarkdown hRest
      obtain ⟨before, after', rfl, hAfter, hTag', hBefore, hLines⟩ := ih hRest'
      refine ⟨line :: (body ++ closer :: before), after', by simp, hAfter, hTag', ?_, ?_⟩
      · rw [flatten_block tag, hBefore, hText]
        rfl
      · intro line' tag' hTag''
        have hSame : line :: (body ++ closer :: before) ++ line' :: after' =
            line :: (body ++ closer :: (before ++ line' :: after')) := by simp
        rw [hSame, piecesOfLines_of_closed hTag hBody hCloser, hLines line' tag' hTag'', hOther]
        rfl

theorem exists_feed_ending {opener : Text} (hFeed : opener.getLast? = some '\n')
    (hOpener : IsOpener opener tag) :
    ∃ ending, opener = mark ++ tag ++ ending ∧ (ending = ['\n'] ∨ ending = ['\r', '\n']) := by
  obtain ⟨hTag, ending, hEnding, rfl⟩ := hOpener
  refine ⟨ending, rfl, ?_⟩
  simp only [endings, List.mem_cons, List.not_mem_nil, or_false] at hEnding
  rcases hEnding with rfl | rfl | hEnding
  · rw [List.append_nil] at hFeed
    exact absurd hFeed (getLast?_mark_append_ne hTag (by decide) (by decide))
  · rw [List.getLast?_append] at hFeed
    cases hFeed
  · exact hEnding

theorem isFirstLine_opener {ending : Text} (hTag : ∀ c ∈ tag, isTagChar c)
    (hEnding : ending = ['\n'] ∨ ending = ['\r', '\n']) (after : Text) :
    IsFirstLine (mark ++ tag ++ ending) after := by
  have hFeed : '\n' ∉ mark ++ tag := by
    intro hMem
    rcases List.mem_append.mp hMem with hMem | hMem
    · exact absurd hMem (by decide)
    · exact absurd (hTag '\n' hMem) (by decide)
  rcases hEnding with rfl | rfl
  · refine ⟨by simp [mark], ?_, .inl (by simp)⟩
    rw [List.dropLast_concat]
    exact hFeed
  · refine ⟨by simp [mark], ?_, .inl (by simp)⟩
    rw [List.dropLast_append_of_ne_nil (by simp)]
    simpa using hFeed

theorem exists_of_placeFrom {start : Nat} {ps : List Piece} {before after : List Region} {r : Region}
    (h : placeFrom start ps = before ++ r :: after) :
    ∃ front p back, ps = front ++ p :: back ∧ front.length = before.length ∧
      r = Piece.place (start + byteSize (front.flatMap Piece.text)) p := by
  induction before generalizing start ps with
  | nil =>
    cases ps with
    | nil => cases h
    | cons p ps =>
      obtain ⟨rfl, -⟩ := List.cons.inj h
      exact ⟨[], p, ps, rfl, rfl, rfl⟩
  | cons s before ih =>
    cases ps with
    | nil => cases h
    | cons p ps =>
      obtain ⟨rfl, hRest⟩ := List.cons.inj h
      obtain ⟨front, q, back, rfl, hLength, rfl⟩ := ih hRest
      refine ⟨p :: front, q, back, rfl, congrArg (· + 1) hLength, ?_⟩
      rw [List.flatMap_cons, byteSize_append, Nat.add_assoc]

section Regions

variable {b : FencedRange} {before after : List Region}

/-- A block begins where the text of the pieces before it ends. -/
theorem opener_start_eq (h : regions t = before ++ .fenced b :: after) :
    b.opener.start = byteSize ((before.map (Region.cut t)).flatMap Piece.text) := by
  obtain ⟨front, p, back, hPieces, hLength, hPlace⟩ := exists_of_placeFrom h
  have hFront : before.map (Region.cut t) = front := by
    rw [← map_cut_regions t, h, List.map_append] at hPieces
    exact (List.append_inj hPieces (by rw [List.length_map, hLength])).1
  rw [hFront]
  cases p with
  | markdown u => cases hPlace
  | fenced other =>
    cases hPlace
    exact Nat.zero_add _

end Regions

end Fence

/-- The text with another tag in the opening line of the block. -/
def FencedRange.retag (t : Text) (b : FencedRange) (tag : Text) : Text :=
  ByteRange.slice t ⟨0, b.opener.start + Fence.mark.byteSize⟩ ++ tag ++
    ByteRange.slice t ⟨b.opener.start + (Fence.mark ++ b.tag).byteSize, t.byteSize⟩

namespace Fence

theorem retag_eq {b : FencedRange} {before after : Text}
    (ht : t = before ++ (mark ++ b.tag ++ after)) (hStart : b.opener.start = before.byteSize)
    (tag : Text) : b.retag t tag = before ++ (mark ++ tag ++ after) := by
  have hFront := ByteRange.slice_append [] (before ++ mark) (b.tag ++ after)
  have hBack := ByteRange.slice_append (before ++ (mark ++ b.tag)) after []
  simp only [byteSize_append, byteSize_nil, Nat.zero_add, List.nil_append, List.append_nil,
    List.append_assoc] at ht hFront hBack
  rw [FencedRange.retag, hStart, ht]
  simp only [byteSize_append, List.append_assoc, Nat.add_assoc] at hFront hBack ⊢
  rw [hFront, hBack]
  simp only [List.append_assoc]

/-- With another tag a block keeps its place, its body and its closing line, and all other
pieces stay what they are. -/
theorem pieces_retag {b : FencedRange} {before after : List Region}
    (h : regions t = before ++ .fenced b :: after) (hTag : ∀ c ∈ tag, isTagChar c) :
    ∃ ending, b.opener.slice t = mark ++ b.tag ++ ending ∧
      pieces (b.retag t tag) = before.map (Region.cut t) ++
        .fenced ⟨tag, mark ++ tag ++ ending, b.body.slice t, b.closer.slice t⟩ ::
          after.map (Region.cut t) := by
  have hPieces : pieces t = before.map (Region.cut t) ++
      .fenced (b.cut t) :: after.map (Region.cut t) := by
    rw [← map_cut_regions t, h, List.map_append]
    rfl
  obtain ⟨front, back, hLines, hMore, hOld, hFront, hOther⟩ := exists_of_piecesOfLines hPieces
  obtain ⟨x, y, ht, rfl, rfl, hStart, hFirst⟩ := exists_of_lines_eq_append hLines
  have hFeed : (b.opener.slice t).getLast? = some '\n' := by
    rcases hFirst.stop with hFeed | rfl
    · exact hFeed
    · exact absurd rfl hMore
  obtain ⟨ending, hOpener, hEnding⟩ :=
    exists_feed_ending hFeed ((openerTag?_eq_some_iff _ b.tag).mp hOld)
  refine ⟨ending, hOpener, ?_⟩
  have hSize : b.opener.start = x.byteSize := by
    rw [opener_start_eq h, ← hFront, flatten_lines]
  have hText : b.retag t tag = x ++ (mark ++ tag ++ ending ++ y) := by
    rw [List.append_assoc _ ending]
    refine retag_eq ?_ hSize tag
    rw [← List.append_assoc _ ending, ← hOpener]
    exact ht
  have hNew : openerTag? (mark ++ tag ++ ending) = some tag := by
    refine (openerTag?_eq_some_iff _ tag).mpr ⟨hTag, ending, ?_, rfl⟩
    rcases hEnding with rfl | rfl <;> simp [endings]
  rw [hText, pieces, lines_of_atLineStart hStart (isFirstLine_opener hTag hEnding y)]
  exact hOther _ tag hNew

end Fence

end MarkdownEditor
