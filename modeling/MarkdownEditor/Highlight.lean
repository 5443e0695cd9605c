import MarkdownEditor.Fence
import MarkdownEditor.Grammar.Basic
import MarkdownEditor.Language.Alias
import MarkdownEditor.Markup.Span

/-!
# Highlighting

The markdown of a document goes to the markdown grammar and the body of every
fenced block to the grammar of its tag. Highlighting never fails: without a
grammar, or when the grammar fails, the text becomes one plain span, and a
failure is reported as a `Fallback`.
-/

namespace MarkdownEditor

set_option autoImplicit false

/-- A region that is shown as plain text because its grammar failed. -/
structure Fallback where
  language : Text
  error : GrammarError
deriving DecidableEq, Repr

def Fallback.message (f : Fallback) : Text :=
  "Highlighting ".toList ++ f.language ++ " as plain text: ".toList ++ f.error.describe

structure Highlighted where
  spans : List Span
  fallbacks : List Fallback

namespace Highlight

def markdownLanguage : Text := "markdown".toList

/-- The class of the two fence lines of a block. -/
def fenceClass : Text := "punctuation code-fence".toList

def spanOfToken (t : Token) : Span :=
  match t.cls with
  | some cls => .token cls t.text
  | none => .text t.text

def tokenizeOrPlain (grammar : Option Grammar) (language source : Text) : Highlighted :=
  if source.isEmpty then ⟨[], []⟩
  else
    match grammar with
    | none => ⟨[.text source], []⟩
    | some g =>
      match g source with
      | .ok tokens => ⟨tokens.map spanOfToken, []⟩
      | .error e => ⟨[.text source], [⟨language, e⟩]⟩

/-- The id of the block's grammar, if one is registered. -/
def blockLanguage (registry : Registry) (aliases : AliasTable) (tag : Text) : Option Text :=
  (aliases.resolve tag).filter registry.contains

def highlightBody (registry : Registry) (language : Option Text) (body : Text) : Highlighted :=
  match language with
  | some l => tokenizeOrPlain (registry.get? l) l body
  | none => tokenizeOrPlain none [] body

def highlightBlock (registry : Registry) (aliases : AliasTable) (block : FencedBlock) :
    Highlighted :=
  let language := blockLanguage registry aliases block.tag
  let body := highlightBody registry language block.body
  ⟨[.codeBlock block.tag language
      (.token fenceClass block.opener :: body.spans ++ [.token fenceClass block.closer])],
    body.fallbacks⟩

def highlightPiece (registry : Registry) (aliases : AliasTable) : Piece → Highlighted
  | .markdown t => tokenizeOrPlain (registry.get? markdownLanguage) markdownLanguage t
  | .fenced block => highlightBlock registry aliases block

end Highlight

open Highlight in
def highlight (registry : Registry) (aliases : AliasTable) (t : Text) : Highlighted :=
  let parts := (Fence.pieces t).map (highlightPiece registry aliases)
  ⟨parts.flatMap Highlighted.spans, parts.flatMap Highlighted.fallbacks⟩

namespace Highlighted

def visible (h : Highlighted) : Text := Span.visibleAll h.spans

def html (h : Highlighted) : Text := Span.htmlAll h.spans

def codeBlocks (h : Highlighted) : List Span := h.spans.filter Span.isCodeBlock

end Highlighted

end MarkdownEditor
