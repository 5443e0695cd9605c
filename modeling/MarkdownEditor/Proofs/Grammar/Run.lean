import MarkdownEditor.Proofs.Grammar.Merge

/-!
# Runs of a line parser

A line parser reads the lines of a source one after the other, each in the state that the
line before left. Its grammar fails if and only if a line does not parse or an operation
does not apply. Otherwise its tokens cover the source and are merged, wherever the
operations cut the lines: in any order, past the end, or twice at one place.
-/

namespace MarkdownEditor

set_option autoImplicit false

open Token

variable {σ : Type} {language source : Text} {parser : LineParser σ}
  {state next : σ} {stack stack' : ScopeStack}

/-- A line and the operations that a parser answers with. -/
structure ParsedLine where
  line : Text
  ops : List (Nat × ScopeOp)

def ParsedLine.scopeOps (parsed : List ParsedLine) : List ScopeOp :=
  parsed.flatMap fun l => l.ops.map Prod.snd

def ScopeStack.applyAll (stack : ScopeStack) (ops : List ScopeOp) :
    Except ScopeError ScopeStack :=
  ops.foldlM ScopeStack.apply stack

namespace LineParser

/-- The parser reads the lines from the first state on and is left in the last one. -/
inductive Parses (parser : LineParser σ) : σ → List ParsedLine → σ → Prop where
  | nil (state : σ) : Parses parser state [] state
  | cons {state next final : σ} {line : Text} {ops : List (Nat × ScopeOp)} {rest : List ParsedLine}
      (hLine : parser.parseLine state line = .ok (ops, next)) (hRest : Parses parser next rest final) :
      Parses parser state (⟨line, ops⟩ :: rest) final

/-- After some of the lines the next one does not parse, or the operations of some of the
lines do not apply one after the other. -/
inductive Fails (parser : LineParser σ) (state : σ) (stack : ScopeStack) (lines : List Text) :
    Prop where
  | line {parsed : List ParsedLine} {middle : σ} {line message : Text} {rest : List Text}
      (hParsed : Parses parser state parsed middle)
      (hLines : lines = parsed.map ParsedLine.line ++ line :: rest)
      (hLine : parser.parseLine middle line = .error message) : Fails parser state stack lines
  | operation {parsed : List ParsedLine} {middle : σ} {e : ScopeError} {rest : List Text}
      (hParsed : Parses parser state parsed middle)
      (hLines : lines = parsed.map ParsedLine.line ++ rest)
      (hApply : stack.applyAll (ParsedLine.scopeOps parsed) = .error e) :
      Fails parser state stack lines

end LineParser

theorem ParsedLine.scopeOps_cons (l : ParsedLine) (parsed : List ParsedLine) :
    scopeOps (l :: parsed) = l.ops.map Prod.snd ++ scopeOps parsed := rfl

namespace ScopeStack

theorem applyAll_nil (stack : ScopeStack) : stack.applyAll [] = .ok stack := rfl

theorem applyAll_cons (stack : ScopeStack) (op : ScopeOp) (ops : List ScopeOp) :
    stack.applyAll (op :: ops) = (stack.apply op).bind fun s => s.applyAll ops := rfl

theorem applyAll_append (stack : ScopeStack) (ops more : List ScopeOp) :
    stack.applyAll (ops ++ more) = (stack.applyAll ops).bind fun s => s.applyAll more :=
  List.foldlM_append

theorem applyAll_append_of_ok {ops : List ScopeOp} (h : stack.applyAll ops = .ok stack')
    (more : List ScopeOp) : stack.applyAll (ops ++ more) = stack'.applyAll more := by
  rw [applyAll_append, h]
  rfl

end ScopeStack

section Line

variable {pos offset : Nat} {rest line : Text} {op : ScopeOp} {ops : List (Nat × ScopeOp)}
  {tokens : List Token}

/-- The number of characters of the rest of a line, from byte `pos` on, that stand before byte
`offset` of the line. -/
def charsBefore (pos offset : Nat) (rest : Text) : Nat := rest.charOffset (offset - pos)

theorem cutLine_cons (stack : ScopeStack) (pos offset : Nat) (rest : Text) (op : ScopeOp)
    (ops : List (Nat × ScopeOp)) :
    cutLine stack pos rest ((offset, op) :: ops) = (stack.apply op).bind fun middle =>
      (cutLine middle (pos + Text.byteSize (rest.take (charsBefore pos offset rest)))
        (rest.drop (charsBefore pos offset rest)) ops).map fun cut =>
          (⟨stack.tokenClass, rest.take (charsBefore pos offset rest)⟩ :: cut.1, cut.2) := by
  rw [cutLine, ← charsBefore]
  cases stack.apply op with
  | error e => rfl
  | ok middle =>
    change Except.bind (cutLine middle _ (rest.drop (charsBefore pos offset rest)) ops) _ =
      Except.map _ (cutLine middle _ (rest.drop (charsBefore pos offset rest)) ops)
    cases cutLine middle _ (rest.drop (charsBefore pos offset rest)) ops <;> rfl

theorem cutLine_cons_eq_ok_iff : cutLine stack pos rest ((offset, op) :: ops) = .ok (tokens, stack') ↔
    ∃ middle later, stack.apply op = .ok middle ∧
      cutLine middle (pos + Text.byteSize (rest.take (charsBefore pos offset rest)))
        (rest.drop (charsBefore pos offset rest)) ops = .ok (later, stack') ∧
      tokens = ⟨stack.tokenClass, rest.take (charsBefore pos offset rest)⟩ :: later := by
  rw [cutLine_cons]
  cases stack.apply op with
  | error e => simp [Except.bind]
  | ok middle =>
    cases hCut : cutLine middle (pos + Text.byteSize (rest.take (charsBefore pos offset rest)))
        (rest.drop (charsBefore pos offset rest)) ops with
    | error e => simp [Except.bind, Except.map, hCut]
    | ok cut =>
      obtain ⟨later, final⟩ := cut
      simp [Except.bind, Except.map, hCut, and_comm, eq_comm]

/-- Where the operations cut has no influence on the stack. -/
theorem map_snd_cutLine (stack : ScopeStack) (pos : Nat) (rest : Text) (ops : List (Nat × ScopeOp)) :
    (cutLine stack pos rest ops).map Prod.snd = stack.applyAll (ops.map Prod.snd) := by
  induction ops generalizing stack pos rest with
  | nil => rfl
  | cons first ops ih =>
    obtain ⟨offset, op⟩ := first
    rw [List.map_cons, ScopeStack.applyAll_cons, cutLine_cons]
    cases stack.apply op with
    | error e => rfl
    | ok middle =>
      change Except.map Prod.snd (Except.map _ _) = middle.applyAll (ops.map Prod.snd)
      rw [← ih middle (pos + Text.byteSize (rest.take (charsBefore pos offset rest)))
        (rest.drop (charsBefore pos offset rest))]
      cases cutLine middle _ (rest.drop (charsBefore pos offset rest)) ops <;> rfl

theorem applyAll_of_cutLine (h : cutLine stack pos rest ops = .ok (tokens, stack')) :
    stack.applyAll (ops.map Prod.snd) = .ok stack' := by
  rw [← map_snd_cutLine stack pos rest ops, h]
  rfl

theorem source_of_cutLine (h : cutLine stack pos rest ops = .ok (tokens, stack')) :
    Token.source tokens = rest := by
  induction ops generalizing stack pos rest tokens with
  | nil =>
    cases h
    exact List.append_nil rest
  | cons first ops ih =>
    obtain ⟨offset, op⟩ := first
    obtain ⟨middle, later, -, hLater, rfl⟩ := cutLine_cons_eq_ok_iff.mp h
    rw [source_cons, ih hLater, List.take_append_drop]

end Line

section Lines

variable {line : Text} {lines more : List Text} {ops : List (Nat × ScopeOp)} {tokens : List Token}

/-- All that one line can do, whatever lines come after it. -/
theorem cutLines_cons_cases (parser : LineParser σ) (state : σ) (stack : ScopeStack) (line : Text) :
    (∃ message, parser.parseLine state line = .error message ∧
      ∀ lines, cutLines parser state stack (line :: lines) = .error message) ∨
    ∃ ops next, parser.parseLine state line = .ok (ops, next) ∧
      ((∃ e, cutLine stack 0 line ops = .error e ∧
        ∀ lines, cutLines parser state stack (line :: lines) = .error e.message) ∨
      ∃ first stack', cutLine stack 0 line ops = .ok (first, stack') ∧
        ∀ lines, cutLines parser state stack (line :: lines) =
          (cutLines parser next stack' lines).map (first ++ ·)) := by
  cases hLine : parser.parseLine state line with
  | error message =>
    refine .inl ⟨message, rfl, fun lines => ?_⟩
    rw [cutLines, hLine]
    rfl
  | ok parsed =>
    obtain ⟨ops, next⟩ := parsed
    refine .inr ⟨ops, next, rfl, ?_⟩
    cases hCut : cutLine stack 0 line ops with
    | error e =>
      refine .inl ⟨e, rfl, fun lines => ?_⟩
      rw [cutLines, hLine]
      change Except.bind (Except.mapError _ (cutLine stack 0 line ops)) _ = _
      rw [hCut]
      rfl
    | ok cut =>
      obtain ⟨first, stack'⟩ := cut
      refine .inr ⟨first, stack', rfl, fun lines => ?_⟩
      rw [cutLines, hLine]
      change Except.bind (Except.mapError _ (cutLine stack 0 line ops)) _ = _
      rw [hCut]
      rfl

theorem cutLines_cons_eq_ok_iff : cutLines parser state stack (line :: lines) = .ok tokens ↔
    ∃ ops next first stack' later, parser.parseLine state line = .ok (ops, next) ∧
      cutLine stack 0 line ops = .ok (first, stack') ∧
      cutLines parser next stack' lines = .ok later ∧ first ++ later = tokens := by
  rcases cutLines_cons_cases parser state stack line with
    ⟨message, hLine, h⟩ | ⟨ops, next, hLine, ⟨e, hCut, h⟩ | ⟨first, stack', hCut, h⟩⟩
  · simp [h, hLine]
  · simp [h, hLine, hCut]
  · cases hRest : cutLines parser next stack' lines with
    | error message => simp [h, hLine, hCut, hRest, Except.map]
    | ok later => simp [h, hLine, hCut, hRest, Except.map]

theorem source_of_cutLines (h : cutLines parser state stack lines = .ok tokens) :
    Token.source tokens = lines.flatten := by
  induction lines generalizing state stack tokens with
  | nil =>
    cases h
    rfl
  | cons line lines ih =>
    obtain ⟨ops, next, first, stack', later, -, hCut, hLater, rfl⟩ := cutLines_cons_eq_ok_iff.mp h
    rw [source_append, source_of_cutLine hCut, ih hLater, List.flatten_cons]

namespace LineParser

theorem Fails.cons (hLine : parser.parseLine state line = .ok (ops, next))
    (hApply : stack.applyAll (ops.map Prod.snd) = .ok stack')
    (h : Fails parser next stack' lines) : Fails parser state stack (line :: lines) := by
  cases h with
  | line hParsed hLines hBad => exact .line (.cons hLine hParsed) (congrArg (line :: ·) hLines) hBad
  | @operation parsed middle e rest hParsed hLines hBad =>
    refine .operation (e := e) (.cons hLine hParsed) (congrArg (line :: ·) hLines) ?_
    exact (ScopeStack.applyAll_append_of_ok hApply _).trans hBad

theorem fails_of_cutLines {message : Text} (h : cutLines parser state stack lines = .error message) :
    Fails parser state stack lines := by
  induction lines generalizing state stack message with
  | nil => cases h
  | cons line lines ih =>
    -- the first line fails, or its operations fail, or what fails comes after it
    rcases cutLines_cons_cases parser state stack line with
      ⟨_, hLine, -⟩ | ⟨ops, next, hLine, ⟨e, hCut, -⟩ | ⟨first, stack', hCut, hAll⟩⟩
    · exact .line (.nil state) rfl hLine
    · refine .operation (e := e) (.cons hLine (.nil next)) rfl ?_
      have hStack := map_snd_cutLine stack 0 line ops
      rw [hCut] at hStack
      exact (congrArg stack.applyAll (List.append_nil _)).trans hStack.symm
    · cases hRest : cutLines parser next stack' lines with
      | error other => exact (ih hRest).cons hLine (applyAll_of_cutLine hCut)
      | ok later =>
        rw [hAll, hRest] at h
        cases h

theorem exists_of_cutLines_cons (hLine : parser.parseLine state line = .ok (ops, next))
    (h : cutLines parser state stack (line :: lines) = .ok tokens) :
    ∃ stack' later, stack.applyAll (ops.map Prod.snd) = .ok stack' ∧
      cutLines parser next stack' lines = .ok later := by
  obtain ⟨ops', next', first, stack', later, hOk, hCut, hLater, -⟩ := cutLines_cons_eq_ok_iff.mp h
  obtain ⟨rfl, rfl⟩ := Prod.mk.inj (Except.ok.inj (hLine.symm.trans hOk))
  exact ⟨stack', later, applyAll_of_cutLine hCut, hLater⟩

/-- A run that succeeds reads its first lines and applies their operations. -/
theorem Parses.exists_of_cutLines {parsed : List ParsedLine} {middle : σ}
    (hParsed : Parses parser state parsed middle)
    (h : cutLines parser state stack (parsed.map ParsedLine.line ++ lines) = .ok tokens) :
    ∃ stack' later, stack.applyAll (ParsedLine.scopeOps parsed) = .ok stack' ∧
      cutLines parser middle stack' lines = .ok later := by
  induction hParsed generalizing stack tokens with
  | nil state => exact ⟨stack, tokens, rfl, h⟩
  | cons hLine _ ih =>
    obtain ⟨middle, later, hApply, hLater⟩ := exists_of_cutLines_cons hLine h
    obtain ⟨stack', last, hRest, hLast⟩ := ih hLater
    refine ⟨stack', last, ?_, hLast⟩
    exact (ScopeStack.applyAll_append_of_ok hApply _).trans hRest

theorem Fails.cutLines_ne_ok (h : Fails parser state stack lines) :
    cutLines parser state stack lines ≠ .ok tokens := by
  intro hOk
  cases h with
  | line hParsed hLines hBad =>
    rw [hLines] at hOk
    obtain ⟨stack', later, -, hLater⟩ := hParsed.exists_of_cutLines hOk
    obtain ⟨ops, next, -, -, -, hLine, -⟩ := cutLines_cons_eq_ok_iff.mp hLater
    rw [hBad] at hLine
    cases hLine
  | operation hParsed hLines hBad =>
    rw [hLines] at hOk
    obtain ⟨stack', later, hApply, -⟩ := hParsed.exists_of_cutLines hOk
    rw [hBad] at hApply
    cases hApply

end LineParser

end Lines

theorem scopedGrammar_eq_ok_iff {tokens : List Token} :
    scopedGrammar language parser source = .ok tokens ↔
      ∃ cut, cutLines parser parser.start .empty source.lines = .ok cut ∧ tokens = merged cut := by
  rw [scopedGrammar]
  cases cutLines parser parser.start .empty source.lines with
  | error message => simp
  | ok cut => simp [eq_comm]

theorem scopedGrammar_eq_error_iff {e : GrammarError} :
    scopedGrammar language parser source = .error e ↔
      e.language = language ∧
        cutLines parser parser.start .empty source.lines = .error e.message := by
  obtain ⟨other, message⟩ := e
  rw [scopedGrammar]
  cases cutLines parser parser.start .empty source.lines with
  | error message => simp [eq_comm]
  | ok cut => simp

abbrev LineParser.FailsOn (parser : LineParser σ) (source : Text) : Prop :=
  parser.Fails parser.start .empty source.lines

theorem exists_error_iff_failsOn (language : Text) (parser : LineParser σ) (source : Text) :
    (∃ e, scopedGrammar language parser source = .error e) ↔ parser.FailsOn source := by
  constructor
  · rintro ⟨e, hError⟩
    exact LineParser.fails_of_cutLines (scopedGrammar_eq_error_iff.mp hError).2
  · intro h
    cases hCut : cutLines parser parser.start .empty source.lines with
    | error message => exact ⟨⟨language, message⟩, scopedGrammar_eq_error_iff.mpr ⟨rfl, hCut⟩⟩
    | ok cut => exact absurd hCut h.cutLines_ne_ok

theorem source_of_scopedGrammar {tokens : List Token}
    (h : scopedGrammar language parser source = .ok tokens) : Token.source tokens = source := by
  obtain ⟨cut, hCut, rfl⟩ := scopedGrammar_eq_ok_iff.mp h
  rw [source_merged, source_of_cutLines hCut, Text.flatten_lines]

/-- A grammar of a line parser fails as a whole or covers all of the source with merged tokens. -/
theorem fails_or_isMerged (language : Text) (parser : LineParser σ) (source : Text) :
    ((parser.FailsOn source ∧ ∃ e, scopedGrammar language parser source = .error e) ∨
      (¬ parser.FailsOn source ∧ ∃ tokens, scopedGrammar language parser source = .ok tokens ∧
        Token.source tokens = source ∧ IsMerged tokens)) ∧
    scopedGrammar language parser [] = .ok [] := by
  refine ⟨?_, rfl⟩
  cases hAnswer : scopedGrammar language parser source with
  | error e => exact .inl ⟨(exists_error_iff_failsOn language parser source).mp ⟨e, hAnswer⟩, e, rfl⟩
  | ok tokens =>
    refine .inr ⟨?_, tokens, rfl, source_of_scopedGrammar hAnswer, ?_⟩
    · intro hFails
      obtain ⟨e, hError⟩ := (exists_error_iff_failsOn language parser source).mpr hFails
      rw [hAnswer] at hError
      cases hError
    · obtain ⟨cut, -, rfl⟩ := scopedGrammar_eq_ok_iff.mp hAnswer
      exact isMerged_merged cut

end MarkdownEditor
