import MarkdownEditor.Grammar.Samples
import MarkdownEditor.Proofs.Grammar.Run
import MarkdownEditor.Proofs.Text.Line

/-!
# Tokens of a text in two parts

A grammar reads line by line, so what it makes of the first lines of a source does not
depend on the lines after them. Only the last token of the first lines may go on.
-/

namespace MarkdownEditor

set_option autoImplicit false

open Token Text

variable {σ : Type} {parser : LineParser σ} {state : σ} {stack : ScopeStack}
  {lines more : List Text}

theorem cutLines_append_of_error {message : Text}
    (h : cutLines parser state stack lines = .error message) (more : List Text) :
    cutLines parser state stack (lines ++ more) = .error message := by
  induction lines generalizing state stack message with
  | nil => cases h
  | cons line lines ih =>
    rw [List.cons_append]
    rcases cutLines_cons_cases parser state stack line with
      ⟨_, -, hAll⟩ | ⟨ops, next, -, ⟨e, -, hAll⟩ | ⟨first, stack', -, hAll⟩⟩
    · rw [hAll] at h ⊢
      exact h
    · rw [hAll] at h ⊢
      exact h
    · rw [hAll] at h ⊢
      cases hRest : cutLines parser next stack' lines with
      | error other =>
        rw [hRest] at h
        rw [ih hRest]
        exact h
      | ok later =>
        rw [hRest] at h
        cases h

theorem exists_of_cutLines_append {tokens : List Token}
    (h : cutLines parser state stack (lines ++ more) = .ok tokens) :
    ∃ first later, cutLines parser state stack lines = .ok first ∧ first ++ later = tokens := by
  induction lines generalizing state stack tokens with
  | nil => exact ⟨[], tokens, rfl, rfl⟩
  | cons line lines ih =>
    rw [List.cons_append, cutLines_cons_eq_ok_iff] at h
    obtain ⟨ops, next, cut, stack', rest, hLine, hCut, hRest, rfl⟩ := h
    obtain ⟨first, later, hFirst, rfl⟩ := ih hRest
    refine ⟨cut ++ first, later, ?_, List.append_assoc cut first later⟩
    exact cutLines_cons_eq_ok_iff.mpr ⟨ops, next, cut, stack', first, hLine, hCut, hFirst, rfl⟩

/-- What a grammar makes of `a ++ b` goes on after what it makes of `a`. -/
structure IsStable (g : Grammar) (a b : Text) : Prop where
  tokens : ∀ all, g (a ++ b) = .ok all → ∃ tokens, g a = .ok tokens ∧
    Token.source tokens = a ∧ Continues b tokens all ∧
    ∀ n < a.byteSize, classAt? all n = classAt? tokens n
  fails : ∀ e, g a = .error e → g (a ++ b) = .error e

/-- A text may be cut where a line ends, and the tokens of its first part are known already. -/
theorem isStable_scopedGrammar (language : Text) (parser : LineParser σ) {a : Text}
    (ha : AtLineStart a) (b : Text) : IsStable (scopedGrammar language parser) a b := by
  have hLines := lines_append ha b
  constructor
  · intro all hAll
    obtain ⟨cut, hCut, rfl⟩ := scopedGrammar_eq_ok_iff.mp hAll
    rw [hLines] at hCut
    obtain ⟨first, later, hFirst, rfl⟩ := exists_of_cutLines_append hCut
    have hTokens : scopedGrammar language parser a = .ok (merged first) :=
      scopedGrammar_eq_ok_iff.mpr ⟨first, hFirst, rfl⟩
    have hSource := source_of_scopedGrammar hTokens
    have hMore : Token.source later = b := by
      have hBoth := source_of_scopedGrammar hAll
      rw [source_merged, source_append, ← source_merged first, hSource] at hBoth
      exact List.append_cancel_left hBoth
    have hCells : cells (merged (first ++ later)) = cells (merged first) ++ cells later := by
      rw [cells_merged, cells_merged, cells_append]
    have hContinues := (isMerged_merged first).continues (isMerged_merged _) hCells
    rw [map_snd_cells, hMore] at hContinues
    refine ⟨merged first, hTokens, hSource, hContinues, ?_⟩
    intro n hn
    rw [← hSource] at hn
    exact hContinues.classAt?_eq hn
  · intro e hError
    obtain ⟨hLanguage, hCut⟩ := scopedGrammar_eq_error_iff.mp hError
    refine scopedGrammar_eq_error_iff.mpr ⟨hLanguage, ?_⟩
    rw [hLines]
    exact cutLines_append_of_error hCut (lines b)

/-- The first part ends inside a string, which goes on after the cut. -/
theorem isStable_scopedGrammar_openString :
    AtLineStart "if f(\"é\n".toList ∧
    IsStable (scopedGrammar "mini".toList Samples.mini.parser) "if f(\"é\n".toList
      "b\") // c".toList := by
  have hCut : AtLineStart "if f(\"é\n".toList := .inr rfl
  exact ⟨hCut, isStable_scopedGrammar "mini".toList Samples.mini.parser hCut _⟩

end MarkdownEditor
