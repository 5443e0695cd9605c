import MarkdownEditor.Fence
import MarkdownEditor.Proofs.Text.Offset

/-!
# Regions as slices

A region names its parts by ranges of bytes. Cutting the ranges out of the text gives
back the pieces that the regions were laid out from, so whatever is made of a document
piece by piece is made of the slices of its regions.
-/

namespace MarkdownEditor

set_option autoImplicit false

open Text

/-- The characters that the range of bytes covers. -/
def ByteRange.slice (t : Text) (range : ByteRange) : Text :=
  t.slice (t.charOffset range.start) (t.charOffset range.stop)

theorem ByteRange.slice_append (before middle after : Text) :
    ByteRange.slice (before ++ middle ++ after)
      ⟨before.byteSize, before.byteSize + middle.byteSize⟩ = middle := by
  have hStart : charOffset (before ++ middle ++ after) before.byteSize = before.length := by
    rw [List.append_assoc, charOffset_append_byteSize]
  rw [ByteRange.slice, hStart, ← byteSize_append, charOffset_append_byteSize, Text.slice_append]

/-- The block with its ranges cut out of the text. -/
def FencedRange.cut (t : Text) (b : FencedRange) : FencedBlock :=
  ⟨b.tag, b.opener.slice t, b.body.slice t, b.closer.slice t⟩

namespace Region

/-- The piece of the text that the region stands for. -/
def cut (t : Text) : Region → Piece
  | .markdown range => .markdown (range.slice t)
  | .fenced b => .fenced (b.cut t)

def block? : Region → Option FencedRange
  | .markdown _ => none
  | .fenced b => some b

end Region

namespace Fence

/-- The fenced blocks of a text, by their ranges. -/
def blockRanges (t : Text) : List FencedRange := (regions t).filterMap Region.block?

theorem cut_place (before after : Text) (p : Piece) :
    (Piece.place before.byteSize p).cut (before ++ p.text ++ after) = p := by
  cases p with
  | markdown t => exact congrArg Piece.markdown (ByteRange.slice_append before t after)
  | fenced b =>
    obtain ⟨tag, opener, body, closer⟩ := b
    have hOpener := ByteRange.slice_append before opener (body ++ closer ++ after)
    have hBody := ByteRange.slice_append (before ++ opener) body (closer ++ after)
    have hCloser := ByteRange.slice_append (before ++ opener ++ body) closer after
    simp only [byteSize_append, List.append_assoc, Nat.add_assoc] at hOpener hBody hCloser
    simp only [Piece.place, Region.cut, FencedRange.cut, Piece.text, FencedBlock.text,
      List.append_assoc, Nat.add_assoc, hOpener, hBody, hCloser]

theorem map_cut_placeFrom (before : Text) (ps : List Piece) :
    (placeFrom before.byteSize ps).map (Region.cut (before ++ ps.flatMap Piece.text)) = ps := by
  induction ps generalizing before with
  | nil => rfl
  | cons p ps ih =>
    have hRest := ih (before ++ p.text)
    rw [byteSize_append] at hRest
    rw [List.flatMap_cons, ← List.append_assoc, placeFrom, List.map_cons, hRest, cut_place]

/-- The pieces of a text are the slices of its regions. -/
theorem map_cut_regions (t : Text) : (regions t).map (Region.cut t) = pieces t := by
  have h := map_cut_placeFrom [] (pieces t)
  rwa [List.nil_append, flatMap_text_pieces] at h

theorem map_cut_blockRanges (t : Text) : (blockRanges t).map (FencedRange.cut t) = blocks t := by
  rw [blocks, ← map_cut_regions t, List.filterMap_map, blockRanges, List.map_filterMap]
  congr 1
  funext r
  cases r with
  | markdown range => rfl
  | fenced b => rfl

end Fence

end MarkdownEditor
