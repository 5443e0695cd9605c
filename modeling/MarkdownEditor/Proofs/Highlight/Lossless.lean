import MarkdownEditor.Grammar.Samples
import MarkdownEditor.Highlight

/-!
# Highlighting loses nothing

A grammar is lossless if the tokens it answers with cover the source. With
lossless grammars the spans of a document cover the document, whichever of the
three ways its parts took: through a grammar, past a missing or failing one, or
as the fence lines around a body. A grammar may fail on any source.
-/

namespace MarkdownEditor

set_option autoImplicit false

/-- Whenever the grammar answers, its tokens cover the source. -/
def Grammar.Lossless (g : Grammar) : Prop :=
  ∀ source tokens, g source = .ok tokens → Token.source tokens = source

def Registry.Lossless (registry : Registry) : Prop :=
  ∀ id g, registry.get? id = some g → Grammar.Lossless g

theorem Registry.lossless_empty : Registry.Lossless Dictionary.empty := by
  intro id g h
  cases h

theorem Registry.Lossless.insert {registry : Registry} {g : Grammar} (h : registry.Lossless)
    (hg : g.Lossless) (id : Text) : Registry.Lossless (Dictionary.insert registry id g) := by
  intro other g' hGet
  rw [Dictionary.get?_insert] at hGet
  split at hGet
  · cases hGet
    exact hg
  · exact h other g' hGet

namespace Samples

theorem lossless_broken : Grammar.Lossless broken := by
  intro source tokens h
  cases h

theorem source_splitWords (t : Text) : Token.source (splitWords t) = t := by
  induction t with
  | nil => rfl
  | cons c t ih =>
    simp only [splitWords]
    split
    · simpa [Token.source] using ih
    · split
      · next cls word rest hWords =>
        rw [hWords] at ih
        simpa [Token.source] using ih
      · simpa [Token.source] using ih

theorem lossless_words : Grammar.Lossless words := by
  intro source tokens h
  cases h
  exact source_splitWords source

end Samples

namespace Highlight

variable {registry : Registry}

theorem visibleAll_map_spanOfToken (tokens : List Token) :
    Span.visibleAll (tokens.map spanOfToken) = Token.source tokens := by
  induction tokens with
  | nil => rfl
  | cons token tokens ih =>
    obtain ⟨cls, text⟩ := token
    cases cls with
    | none => simpa [spanOfToken, Span.visibleAll, Span.visible, Token.source] using ih
    | some cls => simpa [spanOfToken, Span.visibleAll, Span.visible, Token.source] using ih

theorem visible_tokenizeOrPlain {grammar : Option Grammar}
    (hLossless : ∀ g, grammar = some g → g.Lossless) (language source : Text) :
    (tokenizeOrPlain grammar language source).visible = source := by
  unfold tokenizeOrPlain Highlighted.visible
  split
  · next hEmpty => exact (List.isEmpty_iff.mp hEmpty).symm
  · split
    · simp [Span.visibleAll, Span.visible]
    · next g =>
      split
      · next tokens hTokens =>
        rw [visibleAll_map_spanOfToken]
        exact hLossless g rfl source tokens hTokens
      · simp [Span.visibleAll, Span.visible]

theorem visible_highlightBody (hRegistry : registry.Lossless) (language : Option Text)
    (body : Text) : (highlightBody registry language body).visible = body := by
  cases language with
  | none => exact visible_tokenizeOrPlain (by simp) [] body
  | some id => exact visible_tokenizeOrPlain (hRegistry id) id body

theorem visible_highlightBlock (hRegistry : registry.Lossless) (aliases : AliasTable)
    (block : FencedBlock) : (highlightBlock registry aliases block).visible = block.text := by
  have hBody := visible_highlightBody hRegistry (blockLanguage registry aliases block.tag)
    block.body
  unfold Highlighted.visible at hBody
  simp [highlightBlock, Highlighted.visible, Span.visibleAll, Span.visible, hBody,
    FencedBlock.text]

theorem visible_highlightPiece (hRegistry : registry.Lossless) (aliases : AliasTable)
    (p : Piece) : (highlightPiece registry aliases p).visible = p.text := by
  cases p with
  | markdown t => exact visible_tokenizeOrPlain (hRegistry markdownLanguage) markdownLanguage t
  | fenced block => exact visible_highlightBlock hRegistry aliases block

/-- What the parts of a document cover, one after the other. -/
theorem visibleAll_flatMap_spans (parts : List Highlighted) :
    Span.visibleAll (parts.flatMap Highlighted.spans) = parts.flatMap Highlighted.visible := by
  induction parts with
  | nil => rfl
  | cons part parts ih =>
    rw [List.flatMap_cons, Span.visibleAll_append, ih]
    rfl

/-- The spans of a document cover exactly the document. -/
theorem visible_highlight (registry : Registry) (hRegistry : registry.Lossless)
    (aliases : AliasTable) (t : Text) : (highlight registry aliases t).visible = t := by
  calc
    (highlight registry aliases t).visible
        = ((Fence.pieces t).map (highlightPiece registry aliases)).flatMap Highlighted.visible :=
      visibleAll_flatMap_spans _
    _ = (Fence.pieces t).flatMap Piece.text := by
      rw [List.flatMap_map]
      exact congrArg (List.flatMap · _) (funext (visible_highlightPiece hRegistry aliases))
    _ = t := Fence.flatMap_text_pieces t

/-- A failing markdown grammar, a block that has a grammar, one that has none, and an
opener that nothing closes. -/
theorem visible_highlight_mixed :
    Registry.Lossless ((Dictionary.empty.insert "markdown".toList Samples.broken).insert
      "python".toList Samples.words) ∧
    (highlight ((Dictionary.empty.insert "markdown".toList Samples.broken).insert
      "python".toList Samples.words) .builtin
      "a <b>\r\n```py\r\nx = 1\r\n```\r\n```zzz\n```\n```\nc".toList).visible =
      "a <b>\r\n```py\r\nx = 1\r\n```\r\n```zzz\n```\n```\nc".toList := by
  have hMarkdown := Registry.lossless_empty.insert Samples.lossless_broken "markdown".toList
  have hRegistry := hMarkdown.insert Samples.lossless_words "python".toList
  exact ⟨hRegistry, visible_highlight _ hRegistry _ _⟩

end Highlight

end MarkdownEditor
