import MarkdownEditor.Grammar.Samples
import MarkdownEditor.Proofs.Highlight.Dispatch

/-!
# Languages do not disturb each other

The regions of a document do not depend on the grammars at all, and the highlighted form
of a region depends on one grammar at most, the one of its own language. So a change to
one grammar shows in the regions of that language only, even if the grammar fails or is
taken away.
-/

namespace MarkdownEditor.Highlight

set_option autoImplicit false

variable {registry registry' : Registry} {aliases : AliasTable} {t : Text}

theorem contains_congr {id : Text} (h : registry.get? id = registry'.get? id) :
    registry.contains id = registry'.contains id := by
  rw [Dictionary.contains, Dictionary.contains, h]

theorem blockLanguage_congr {tag : Text}
    (h : ∀ id, aliases.resolve tag = some id → registry.get? id = registry'.get? id) :
    blockLanguage registry aliases tag = blockLanguage registry' aliases tag := by
  rw [blockLanguage, blockLanguage]
  cases hResolve : aliases.resolve tag with
  | none => rfl
  | some id => rw [Option.filter_some, Option.filter_some, contains_congr (h id hResolve)]

theorem highlightBody_congr {language : Option Text}
    (h : ∀ id, language = some id → registry.get? id = registry'.get? id) (body : Text) :
    highlightBody registry language body = highlightBody registry' language body := by
  cases language with
  | none => rfl
  | some id => rw [highlightBody, highlightBody, h id rfl]

theorem highlightBlock_congr {block : FencedBlock}
    (h : ∀ id, aliases.resolve block.tag = some id → registry.get? id = registry'.get? id) :
    highlightBlock registry aliases block = highlightBlock registry' aliases block := by
  -- the language of the body is a registered one, but it still is what the tag resolves to
  have hBody : ∀ id, blockLanguage registry' aliases block.tag = some id →
      registry.get? id = registry'.get? id := by
    intro id hLanguage
    exact h id ((blockLanguage_eq_some_iff registry' aliases block.tag id).mp hLanguage).2.1
  rw [highlightBlock, highlightBlock, blockLanguage_congr h, highlightBody_congr hBody]

/-- Of all grammars a region depends on the one of its language only. -/
theorem highlightRegion_congr {r : Region}
    (h : ∀ id, r.language? aliases = some id → registry.get? id = registry'.get? id) :
    highlightRegion registry aliases t r = highlightRegion registry' aliases t r := by
  cases r with
  | markdown range =>
    change tokenizeOrPlain (registry.get? markdownLanguage) _ _ =
      tokenizeOrPlain (registry'.get? markdownLanguage) _ _
    rw [h markdownLanguage rfl]
  | fenced b => exact highlightBlock_congr h

/-- With the one registry or the other, a document is made of the highlighted forms of the
same regions, and they are alike for every region that is not written in `x`. -/
structure DifferOnlyIn (x : Text) (registry registry' : Registry) (aliases : AliasTable)
    (t : Text) : Prop where
  parts : highlight registry aliases t =
    .concat ((Fence.regions t).map (highlightRegion registry aliases t))
  parts' : highlight registry' aliases t =
    .concat ((Fence.regions t).map (highlightRegion registry' aliases t))
  blocks : ∀ b, .fenced b ∈ Fence.regions t → b.tag = [] ∨ aliases.resolve b.tag ≠ some x →
    highlightRegion registry aliases t (.fenced b) =
      highlightRegion registry' aliases t (.fenced b)
  gaps : x ≠ markdownLanguage → ∀ range, .markdown range ∈ Fence.regions t →
    highlightRegion registry aliases t (.markdown range) =
      highlightRegion registry' aliases t (.markdown range)

/-- If two registries agree on every language but `x`, so do the highlighted documents. -/
theorem differOnlyIn_of_agree {x : Text}
    (hAgree : ∀ id, id ≠ x → registry.get? id = registry'.get? id) (aliases : AliasTable)
    (t : Text) : DifferOnlyIn x registry registry' aliases t := by
  have hRegion : ∀ r : Region, r.language? aliases ≠ some x →
      highlightRegion registry aliases t r = highlightRegion registry' aliases t r := by
    intro r hOther
    refine highlightRegion_congr fun id hId => hAgree id ?_
    rintro rfl
    exact hOther hId
  refine ⟨highlight_eq_concat registry aliases t, highlight_eq_concat registry' aliases t, ?_, ?_⟩
  · rintro b - hTag
    refine hRegion (.fenced b) ?_
    change aliases.resolve b.tag ≠ some x
    rcases hTag with hEmpty | hOther
    · rw [hEmpty]
      nofun
    · exact hOther
  · rintro hx range -
    refine hRegion (.markdown range) ?_
    intro hLanguage
    exact hx (Option.some.inj hLanguage).symm

/-- A registry of two languages. -/
def twoLanguages : Registry :=
  (Dictionary.empty.insert "javascript".toList Samples.words).insert "python".toList Samples.words

/-- One of the two breaks. -/
theorem differOnlyIn_of_agree_broken :
    (∀ id, id ≠ "python".toList → twoLanguages.get? id =
      Dictionary.get? (twoLanguages.insert "python".toList Samples.broken) id) ∧
    DifferOnlyIn "python".toList twoLanguages
      (twoLanguages.insert "python".toList Samples.broken) .builtin
      "a\n```js\nx y\n```\n```py\nx y\n```\n```\n```".toList := by
  have hAgree : ∀ id, id ≠ "python".toList → twoLanguages.get? id =
      Dictionary.get? (twoLanguages.insert "python".toList Samples.broken) id := by
    intro id hId
    rw [Dictionary.get?_insert, if_neg (Ne.symm hId)]
  exact ⟨hAgree, differOnlyIn_of_agree hAgree .builtin _⟩

end MarkdownEditor.Highlight
