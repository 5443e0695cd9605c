import Mathlib.Data.List.Forall2
import MarkdownEditor.Highlight
import MarkdownEditor.Proofs.Fence.Slice

/-!
# Which grammar gets what

A document is highlighted region by region. A region has a language: markdown, or what
its tag resolves to. If a grammar is registered for it, the grammar gets exactly the
slice of the region, or the body of a block, unless that is empty. What the grammar
answers stands in the place of the slice; without an answer the slice stands there as
one plain span, and the failure is reported.
-/

namespace MarkdownEditor

set_option autoImplicit false

namespace Region

/-- The language that a region is written in. A block with an empty tag has none. -/
def language? (aliases : AliasTable) : Region → Option Text
  | .markdown _ => some Highlight.markdownLanguage
  | .fenced b => aliases.resolve b.tag

/-- The part of the region that its grammar gets to see. -/
def source (t : Text) : Region → Text
  | .markdown range => range.slice t
  | .fenced b => b.body.slice t

end Region

/-- The parts of a document, one after the other. -/
def Highlighted.concat (parts : List Highlighted) : Highlighted :=
  ⟨parts.flatMap spans, parts.flatMap fallbacks⟩

namespace Highlight

section Spec

variable (registry : Registry) (aliases : AliasTable) (t : Text)

/-- The grammar registered for the language of the region, with its id. -/
def selected? (r : Region) : Option (Text × Grammar) :=
  (r.language? aliases).bind fun id => (registry.get? id).map (Prod.mk id)

/-- What the grammar reports of a source that is handed to it. -/
def failureOn? (source : Text) (selected : Text × Grammar) : Option Fallback :=
  match selected.2 source with
  | .ok _ => none
  | .error e => some ⟨selected.1, e⟩

/-- The failure of the grammar of the region; nothing is asked of it if the source is empty. -/
def failure? (r : Region) : Option Fallback :=
  if r.source t = [] then none
  else (selected? registry aliases r).bind (failureOn? (r.source t))

/-- The ways to show a source, given the grammar selected for it. -/
inductive Shows : Option (Text × Grammar) → Text → Highlighted → Prop where
  | empty (selected : Option (Text × Grammar)) : Shows selected [] ⟨[], []⟩
  | plain {source : Text} (hSource : source ≠ []) : Shows none source ⟨[.text source], []⟩
  | tokens {id source : Text} {g : Grammar} {tokens : List Token} (hSource : source ≠ [])
      (hTokens : g source = .ok tokens) :
      Shows (some (id, g)) source ⟨tokens.map spanOfToken, []⟩
  | failed {id source : Text} {g : Grammar} {e : GrammarError} (hSource : source ≠ [])
      (hError : g source = .error e) :
      Shows (some (id, g)) source ⟨[.text source], [⟨id, e⟩]⟩

/-- The ways to show a region of `t`. A block names its grammar if one is registered, whatever
becomes of its body, and has its fence lines as first and last child. -/
inductive ShowsRegion : Region → Highlighted → Prop where
  | markdown {range : ByteRange} {h : Highlighted}
      (hShows : Shows (selected? registry aliases (.markdown range)) (range.slice t) h) :
      ShowsRegion (.markdown range) h
  | fenced {b : FencedRange} {grammar : Option Text} {body : Highlighted}
      (hGrammar : ∀ id, grammar = some id ↔
        b.tag ≠ [] ∧ aliases.resolve b.tag = some id ∧ registry.contains id)
      (hShows : Shows (selected? registry aliases (.fenced b)) (b.body.slice t) body) :
      ShowsRegion (.fenced b) ⟨[.codeBlock b.tag grammar (.token fenceClass (b.opener.slice t) ::
        body.spans ++ [.token fenceClass (b.closer.slice t)])], body.fallbacks⟩

/-- `h` shows every region of `t` in its place. Its code blocks are those of the fenced blocks,
all at top level, and its fallbacks the failures of the regions, in the order of the text. -/
structure IsDispatch (h : Highlighted) : Prop where
  parts : ∃ parts, List.Forall₂ (ShowsRegion registry aliases t) (Fence.regions t) parts ∧
    h = Highlighted.concat parts
  blocks : List.Forall₂ (fun b s => ∃ fallbacks, ShowsRegion registry aliases t (.fenced b)
    ⟨[s], fallbacks⟩) (Fence.blockRanges t) h.codeBlocks
  topLevel : ∀ tag grammar children, Span.codeBlock tag grammar children ∈ h.spans →
    ∀ s ∈ children, s.isCodeBlock = false
  fallbacks : h.fallbacks = (Fence.regions t).filterMap (failure? registry aliases t)

/-- The highlighted form of one region of `t`. -/
def highlightRegion (r : Region) : Highlighted := highlightPiece registry aliases (r.cut t)

end Spec

variable {registry : Registry} {aliases : AliasTable} {t : Text}

/-- A document is highlighted region by region. -/
theorem highlight_eq_concat (registry : Registry) (aliases : AliasTable) (t : Text) :
    highlight registry aliases t =
      .concat ((Fence.regions t).map (highlightRegion registry aliases t)) := by
  have hPieces : (Fence.pieces t).map (highlightPiece registry aliases) =
      (Fence.regions t).map (highlightRegion registry aliases t) := by
    rw [← Fence.map_cut_regions t, List.map_map]
    rfl
  rw [← hPieces]
  rfl

theorem shows_tokenizeOrPlain (grammar : Option Grammar) (id source : Text) :
    Shows (grammar.map (Prod.mk id)) source (tokenizeOrPlain grammar id source) := by
  unfold tokenizeOrPlain
  split
  · next hEmpty =>
    rw [List.isEmpty_iff.mp hEmpty]
    exact .empty _
  · next hSource =>
    have hSource' : source ≠ [] := fun h => hSource (List.isEmpty_iff.mpr h)
    split
    · exact .plain hSource'
    · next g =>
      split
      · next tokens hTokens => exact .tokens hSource' hTokens
      · next e hError => exact .failed hSource' hError

theorem failureOn?_of_ok {id source : Text} {g : Grammar} {tokens : List Token}
    (h : g source = .ok tokens) : failureOn? source (id, g) = none := by
  simp [failureOn?, h]

theorem failureOn?_of_error {id source : Text} {g : Grammar} {e : GrammarError}
    (h : g source = .error e) : failureOn? source (id, g) = some ⟨id, e⟩ := by
  simp [failureOn?, h]

theorem isCodeBlock_spanOfToken (token : Token) : (spanOfToken token).isCodeBlock = false := by
  obtain ⟨cls, text⟩ := token
  cases cls with
  | none => rfl
  | some cls => rfl

namespace Shows

variable {selected : Option (Text × Grammar)} {source : Text} {h : Highlighted}

/-- Grammars make no code blocks. -/
theorem isCodeBlock_eq_false (hShows : Shows selected source h) :
    ∀ s ∈ h.spans, s.isCodeBlock = false := by
  intro s hs
  cases hShows with
  | empty => cases hs
  | plain =>
    rw [List.mem_singleton.mp hs]
    rfl
  | failed =>
    rw [List.mem_singleton.mp hs]
    rfl
  | tokens =>
    obtain ⟨token, -, rfl⟩ := List.mem_map.mp hs
    exact isCodeBlock_spanOfToken token

theorem codeBlocks_eq_nil (hShows : Shows selected source h) : h.codeBlocks = [] := by
  apply List.filter_eq_nil_iff.mpr
  intro s hs
  rw [hShows.isCodeBlock_eq_false s hs]
  exact Bool.false_ne_true

theorem fallbacks_eq (hShows : Shows selected source h) :
    h.fallbacks = (if source = [] then none else selected.bind (failureOn? source)).toList := by
  cases hShows with
  | empty => rfl
  | plain hSource =>
    rw [if_neg hSource]
    rfl
  | tokens hSource hTokens =>
    rw [if_neg hSource, Option.bind_some, failureOn?_of_ok hTokens]
    rfl
  | failed hSource hError =>
    rw [if_neg hSource, Option.bind_some, failureOn?_of_error hError]
    rfl

end Shows

theorem blockLanguage_eq_some_iff (registry : Registry) (aliases : AliasTable) (tag id : Text) :
    blockLanguage registry aliases tag = some id ↔
      tag ≠ [] ∧ aliases.resolve tag = some id ∧ registry.contains id := by
  have hTag : aliases.resolve tag = some id → tag ≠ [] := by
    rintro h rfl
    cases h
  rw [blockLanguage, Option.filter_eq_some_iff]
  constructor
  · rintro ⟨hResolve, hContains⟩
    exact ⟨hTag hResolve, hResolve, hContains⟩
  · rintro ⟨-, hResolve, hContains⟩
    exact ⟨hResolve, hContains⟩

theorem shows_highlightBody (b : FencedRange) (body : Text) :
    Shows (selected? registry aliases (.fenced b)) body
      (highlightBody registry (blockLanguage registry aliases b.tag) body) := by
  rw [selected?, blockLanguage, Region.language?]
  cases aliases.resolve b.tag with
  | none => exact shows_tokenizeOrPlain none [] body
  | some id =>
    rw [Option.bind_some, Option.filter_some, Dictionary.contains]
    cases hGet : registry.get? id with
    | none => exact shows_tokenizeOrPlain none [] body
    | some g =>
      change Shows _ body (tokenizeOrPlain (registry.get? id) id body)
      rw [hGet]
      exact shows_tokenizeOrPlain (some g) id body

theorem showsRegion_highlightRegion (r : Region) :
    ShowsRegion registry aliases t r (highlightRegion registry aliases t r) := by
  cases r with
  | markdown range =>
    exact .markdown (shows_tokenizeOrPlain (registry.get? markdownLanguage) markdownLanguage _)
  | fenced b =>
    exact .fenced (blockLanguage_eq_some_iff registry aliases b.tag) (shows_highlightBody b _)

namespace ShowsRegion

variable {r : Region} {h : Highlighted}

theorem fallbacks_eq (hShows : ShowsRegion registry aliases t r h) :
    h.fallbacks = (failure? registry aliases t r).toList := by
  cases hShows with
  | markdown hShows => exact hShows.fallbacks_eq
  | fenced hGrammar hShows => exact hShows.fallbacks_eq

/-- Inside a block stands no block. -/
theorem isCodeBlock_eq_false (hShows : ShowsRegion registry aliases t r h) {tag : Text}
    {grammar : Option Text} {children : List Span}
    (hMem : Span.codeBlock tag grammar children ∈ h.spans) :
    ∀ s ∈ children, s.isCodeBlock = false := by
  cases hShows with
  | markdown hShows => cases hShows.isCodeBlock_eq_false _ hMem
  | fenced hGrammar hShows =>
    cases List.mem_singleton.mp hMem
    intro s hs
    rcases List.mem_append.mp hs with hs | hs
    · rcases List.mem_cons.mp hs with rfl | hs
      · rfl
      · exact hShows.isCodeBlock_eq_false s hs
    · rw [List.mem_singleton.mp hs]
      rfl

end ShowsRegion

variable {rs : List Region} {parts : List Highlighted}

theorem fallbacks_concat (hParts : List.Forall₂ (ShowsRegion registry aliases t) rs parts) :
    (Highlighted.concat parts).fallbacks = rs.filterMap (failure? registry aliases t) := by
  rw [List.filterMap_eq_flatMap_toList]
  induction hParts with
  | nil => rfl
  | cons hShows _ ih =>
    rw [List.flatMap_cons, ← ih, ← hShows.fallbacks_eq]
    rfl

theorem codeBlocks_cons (part : Highlighted) (parts : List Highlighted) :
    (Highlighted.concat (part :: parts)).codeBlocks =
      part.codeBlocks ++ (Highlighted.concat parts).codeBlocks :=
  List.filter_append ..

/-- The blocks come out one by one, since markdown makes none. -/
theorem forall₂_codeBlocks_concat
    (hParts : List.Forall₂ (ShowsRegion registry aliases t) rs parts) :
    List.Forall₂ (fun b s => ∃ fallbacks, ShowsRegion registry aliases t (.fenced b)
      ⟨[s], fallbacks⟩) (rs.filterMap Region.block?) (Highlighted.concat parts).codeBlocks := by
  induction hParts with
  | nil => exact .nil
  | cons hShows _ ih =>
    rw [codeBlocks_cons]
    cases hShows with
    | markdown hShows =>
      rw [hShows.codeBlocks_eq_nil]
      exact ih
    | fenced hGrammar hShows => exact .cons ⟨_, .fenced hGrammar hShows⟩ ih

theorem children_concat (hParts : List.Forall₂ (ShowsRegion registry aliases t) rs parts)
    {tag : Text} {grammar : Option Text} {children : List Span}
    (hMem : Span.codeBlock tag grammar children ∈ (Highlighted.concat parts).spans) :
    ∀ s ∈ children, s.isCodeBlock = false := by
  induction hParts with
  | nil => cases hMem
  | cons hShows _ ih =>
    rcases List.mem_append.mp hMem with hMem | hMem
    · exact hShows.isCodeBlock_eq_false hMem
    · exact ih hMem

/-- Every region of a document goes to its own grammar and to no other, and whatever the
grammar does, it is shown. -/
theorem isDispatch_highlight (registry : Registry) (aliases : AliasTable) (t : Text) :
    IsDispatch registry aliases t (highlight registry aliases t) := by
  have hParts : List.Forall₂ (ShowsRegion registry aliases t) (Fence.regions t)
      ((Fence.regions t).map (highlightRegion registry aliases t)) := by
    rw [List.forall₂_map_right_iff, List.forall₂_same]
    exact fun r _ => showsRegion_highlightRegion r
  rw [highlight_eq_concat]
  exact
    { parts := ⟨_, hParts, rfl⟩
      blocks := forall₂_codeBlocks_concat hParts
      topLevel := fun _ _ _ => children_concat hParts
      fallbacks := fallbacks_concat hParts }

end Highlight

end MarkdownEditor
