import MarkdownEditor.Grammar.Samples
import MarkdownEditor.Proofs.Fence.Retag
import MarkdownEditor.Proofs.Highlight.Dispatch

/-!
# The spelling of tags

A tag stands for the id that it resolves to. If the tag of a block is spelled in another
way that resolves to the same id, the document is highlighted as before, but for the tag of
the block and the text of its opening line.
-/

namespace MarkdownEditor.Highlight

set_option autoImplicit false

/-- The highlighted form of a block, with its grammar and what becomes of its body. -/
def shownBlock (tag opener closer : Text) (grammar : Option Text) (body : Highlighted) :
    Highlighted :=
  ⟨[.codeBlock tag grammar (.token fenceClass opener :: body.spans ++ [.token fenceClass closer])],
    body.fallbacks⟩

/-- With `tag` for the tag of the block `b`, the text is highlighted as before, but for the tag
and the opening line of that block. What stands before and after it comes from `t` itself. -/
def DiffersInSpelling (registry : Registry) (aliases : AliasTable) (t : Text)
    (before : List Region) (b : FencedRange) (after : List Region) (tag : Text) : Prop :=
  ∃ ending grammar body, b.opener.slice t = Fence.mark ++ b.tag ++ ending ∧
    highlight registry aliases t = .concat (before.map (highlightRegion registry aliases t) ++
      shownBlock b.tag (Fence.mark ++ b.tag ++ ending) (b.closer.slice t) grammar body ::
        after.map (highlightRegion registry aliases t)) ∧
    highlight registry aliases (b.retag t tag) =
      .concat (before.map (highlightRegion registry aliases t) ++
        shownBlock tag (Fence.mark ++ tag ++ ending) (b.closer.slice t) grammar body ::
          after.map (highlightRegion registry aliases t))

variable {registry : Registry} {aliases : AliasTable} {t tag : Text}

theorem highlightPiece_fenced (registry : Registry) (aliases : AliasTable)
    (tag opener body closer : Text) :
    highlightPiece registry aliases (.fenced ⟨tag, opener, body, closer⟩) =
      shownBlock tag opener closer (blockLanguage registry aliases tag)
        (highlightBody registry (blockLanguage registry aliases tag) body) := rfl

theorem map_highlightPiece_cut (rs : List Region) :
    (rs.map (Region.cut t)).map (highlightPiece registry aliases) =
      rs.map (highlightRegion registry aliases t) := by
  rw [List.map_map]
  rfl

/-- Another spelling of the tag of one block changes its tag and its opening line in the
highlighted document and nothing else. -/
theorem differsInSpelling_of_resolve (registry : Registry) {before after : List Region}
    {b : FencedRange} (hRegions : Fence.regions t = before ++ .fenced b :: after)
    (hTag : ∀ c ∈ tag, Fence.isTagChar c) (hResolve : aliases.resolve tag = aliases.resolve b.tag) :
    DiffersInSpelling registry aliases t before b after tag := by
  obtain ⟨ending, hOpener, hPieces⟩ := Fence.pieces_retag hRegions hTag
  have hLanguage : blockLanguage registry aliases tag = blockLanguage registry aliases b.tag := by
    rw [blockLanguage, blockLanguage, hResolve]
  refine ⟨ending, blockLanguage registry aliases b.tag,
    highlightBody registry (blockLanguage registry aliases b.tag) (b.body.slice t), hOpener, ?_, ?_⟩
  · rw [highlight_eq_concat, hRegions, List.map_append, List.map_cons, ← hOpener]
    rfl
  · change Highlighted.concat ((Fence.pieces (b.retag t tag)).map (highlightPiece registry aliases)) = _
    rw [hPieces, List.map_append, List.map_cons, highlightPiece_fenced, hLanguage,
      map_highlightPiece_cut, map_highlightPiece_cut]

/-- A text whose first block is written in JavaScript. -/
def twoBlocks : Text := "é\n\x60\x60\x60js\r\nx y\n\x60\x60\x60\n\x60\x60\x60\n\x60\x60\x60".toList

def firstBlock : FencedRange := ⟨"js".toList, ⟨3, 10⟩, ⟨10, 14⟩, ⟨14, 17⟩⟩

/-- The tag is spelled out, and its grammar fails. -/
theorem differsInSpelling_of_resolve_javaScript :
    Fence.regions twoBlocks = [.markdown ⟨0, 3⟩] ++ .fenced firstBlock ::
      [.markdown ⟨17, 18⟩, .fenced ⟨[], ⟨18, 22⟩, ⟨22, 22⟩, ⟨22, 25⟩⟩] ∧
    (∀ c ∈ "JavaScript".toList, Fence.isTagChar c) ∧
    AliasTable.builtin.resolve "JavaScript".toList = AliasTable.builtin.resolve firstBlock.tag ∧
    DiffersInSpelling (Dictionary.empty.insert "javascript".toList Samples.broken) .builtin twoBlocks
      [.markdown ⟨0, 3⟩] firstBlock [.markdown ⟨17, 18⟩, .fenced ⟨[], ⟨18, 22⟩, ⟨22, 22⟩, ⟨22, 25⟩⟩]
      "JavaScript".toList := by
  have hRegions : Fence.regions twoBlocks = [.markdown ⟨0, 3⟩] ++ .fenced firstBlock ::
      [.markdown ⟨17, 18⟩, .fenced ⟨[], ⟨18, 22⟩, ⟨22, 22⟩, ⟨22, 25⟩⟩] := by decide +kernel
  have hTag : ∀ c ∈ "JavaScript".toList, Fence.isTagChar c :=
    List.all_eq_true.mp (by decide)
  have hResolve : AliasTable.builtin.resolve "JavaScript".toList =
      AliasTable.builtin.resolve firstBlock.tag := by decide
  exact ⟨hRegions, hTag, hResolve, differsInSpelling_of_resolve _ hRegions hTag hResolve⟩

end MarkdownEditor.Highlight
