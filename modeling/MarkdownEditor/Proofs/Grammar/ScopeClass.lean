import MarkdownEditor.Proofs.Grammar.Run
import MarkdownEditor.Proofs.Text.Offset

/-!
# The class of every byte

A byte of a line has the class of one stack, the one that all operations of the lines before
and those of its line up to the byte build from the empty stack. It does not matter which
pieces the line was cut into, nor that the pieces were merged.
-/

namespace MarkdownEditor

set_option autoImplicit false

open Token Text

namespace ScopeStack

/-- The scope only says where in the structure of the text something stands. -/
def IsStructural (scope : Text) : Prop := "meta.".toList <+: scope

/-- The name of a scope as a class: the parts of the name with spaces between them. -/
def className (scope : Text) : Text := scope.map fun c => if c = '.' then ' ' else c

/-- The class that a stack gives to a text: that of the innermost scope that is neither
structural nor the bottom one. -/
inductive Gives (stack : ScopeStack) : Option Text → Prop where
  | scope {inner outer : List Text} {scope : Text} (hScopes : stack.scopes = inner ++ scope :: outer)
      (hOuter : outer ≠ []) (hScope : ¬ IsStructural scope) (hInner : ∀ s ∈ inner, IsStructural s) :
      Gives stack (some (className scope))
  | nothing (h : ∀ s ∈ stack.scopes.dropLast, IsStructural s) : Gives stack none

theorem isStructural_iff (scope : Text) :
    (!structureMark.isPrefixOf scope) = false ↔ IsStructural scope := by
  rw [Bool.not_eq_false', List.isPrefixOf_iff_prefix]
  rfl

theorem gives_iff (stack : ScopeStack) (cls : Option Text) :
    stack.Gives cls ↔ cls = stack.tokenClass := by
  constructor
  · intro h
    cases h with
    | @scope inner outer scope hScopes hOuter hScope hInner =>
      have hNamed : (!structureMark.isPrefixOf scope) = true := by
        rwa [← Bool.not_eq_false, isStructural_iff]
      have hFind : (stack.scopes.dropLast.find? fun s => !structureMark.isPrefixOf s) = some scope := by
        rw [hScopes, List.dropLast_append_of_ne_nil (List.cons_ne_nil scope outer),
          List.dropLast_cons_of_ne_nil hOuter, List.find?_eq_some_iff_append]
        refine ⟨hNamed, inner, outer.dropLast, rfl, ?_⟩
        intro s hs
        rw [(isStructural_iff s).mpr (hInner s hs)]
        rfl
      rw [tokenClass, hFind]
      rfl
    | nothing h =>
      have hFind : (stack.scopes.dropLast.find? fun s => !structureMark.isPrefixOf s) = none := by
        rw [List.find?_eq_none]
        intro s hs
        rw [(isStructural_iff s).mpr (h s hs)]
        exact Bool.false_ne_true
      rw [tokenClass, hFind]
      rfl
  · rintro rfl
    rw [tokenClass]
    cases hFind : stack.scopes.dropLast.find? fun s => !structureMark.isPrefixOf s with
    | none =>
      refine .nothing fun s hs => ?_
      have hNone := List.find?_eq_none.mp hFind s hs
      rwa [Bool.not_eq_true, isStructural_iff] at hNone
    | some scope =>
      obtain ⟨hNamed, inner, outer, hScopes, hInner⟩ := List.find?_eq_some_iff_append.mp hFind
      have hNil : stack.scopes ≠ [] := by
        intro hNil
        rw [hNil] at hScopes
        cases inner <;> cases hScopes
      have hAll : stack.scopes = inner ++ scope :: (outer ++ [stack.scopes.getLast hNil]) := by
        rw [← List.cons_append, ← List.append_assoc, ← hScopes, List.dropLast_append_getLast]
      refine .scope hAll ?_ ?_ ?_
      · exact List.append_ne_nil_of_right_ne_nil outer (List.cons_ne_nil _ [])
      · intro h
        rw [(isStructural_iff scope).mpr h] at hNamed
        cases hNamed
      · intro s hs
        exact (isStructural_iff s).mp ((Bool.not_eq_true' _).mp (hInner s hs))

end ScopeStack

namespace ParsedLine

def text (parsed : List ParsedLine) : Text := parsed.flatMap line

/-- The operations up to byte `n` of the line. -/
def opsUpTo (n : Nat) (ops : List (Nat × ScopeOp)) : List ScopeOp :=
  (ops.filter fun o => o.1 ≤ n).map Prod.snd

/-- The operations stand in the order of their offsets, and none stands inside a character. -/
structure IsOrdered (l : ParsedLine) : Prop where
  sorted : l.ops.Pairwise fun a b => a.1 ≤ b.1
  boundary : ∀ o ∈ l.ops, o.1 ≤ l.line.byteSize → IsBoundary l.line o.1

variable {n offset : Nat} {op : ScopeOp} {ops : List (Nat × ScopeOp)}

theorem text_cons (l : ParsedLine) (parsed : List ParsedLine) :
    text (l :: parsed) = l.line ++ text parsed := rfl

theorem opsUpTo_cons_of_le (h : offset ≤ n) :
    opsUpTo n ((offset, op) :: ops) = op :: opsUpTo n ops := by
  rw [opsUpTo, List.filter_cons_of_pos (by simpa using h)]
  rfl

theorem opsUpTo_of_lt (h : ∀ o ∈ ops, n < o.1) : opsUpTo n ops = [] := by
  have hNone : ops.filter (fun o => o.1 ≤ n) = [] := by
    rw [List.filter_eq_nil_iff]
    intro o ho
    simpa using h o ho
  rw [opsUpTo, hNone]
  rfl

end ParsedLine

open ParsedLine

variable {σ : Type} {parser : LineParser σ} {state : σ} {stack stack' : ScopeStack}
  {tokens : List Token}

/-- Every byte of the rest of a line has the class of the stack after the operations up to it. -/
theorem classAt?_of_cutLine {pos : Nat} {rest : Text} {ops : List (Nat × ScopeOp)}
    (h : cutLine stack pos rest ops = .ok (tokens, stack'))
    (hSorted : ops.Pairwise fun a b => a.1 ≤ b.1)
    (hBoundary : ∀ o ∈ ops, ∀ k, o.1 = pos + k → k ≤ rest.byteSize → IsBoundary rest k)
    {i : Nat} (hi : i < rest.byteSize) :
    ∃ s, stack.applyAll (opsUpTo (pos + i) ops) = .ok s ∧ classAt? tokens i = some s.tokenClass := by
  induction ops generalizing stack pos rest tokens i with
  | nil =>
    cases h
    exact ⟨_, rfl, classAt?_cons_of_lt hi⟩
  | cons first ops ih =>
    obtain ⟨offset, op⟩ := first
    obtain ⟨hLater, hSorted⟩ := List.pairwise_cons.mp hSorted
    obtain ⟨middle, later, hApply, hCut, rfl⟩ := cutLine_cons_eq_ok_iff.mp h
    have hSize : byteSize (rest.take (charsBefore pos offset rest)) =
        min (offset - pos) rest.byteSize := by
      refine byteSize_take_charOffset fun hLe => ?_
      rcases Nat.le_total pos offset with hPos | hPos
      · exact hBoundary _ List.mem_cons_self _ (by omega) hLe
      · rw [Nat.sub_eq_zero_of_le hPos]
        exact isBoundary_zero rest
    -- from here on only the two parts of the rest and their sizes matter
    have hRest := List.take_append_drop (charsBefore pos offset rest) rest
    generalize rest.take (charsBefore pos offset rest) = part at hCut hSize hRest
    generalize rest.drop (charsBefore pos offset rest) = back at hCut hRest
    subst hRest
    rw [byteSize_append] at hi hSize
    rcases Nat.lt_or_ge i (byteSize part) with hPart | hPart
    · -- the byte stands before the first operation, so none of them is applied
      have hNone : ∀ o ∈ (offset, op) :: ops, pos + i < o.1 := by
        intro o ho
        rcases List.mem_cons.mp ho with rfl | ho
        · change pos + i < offset
          omega
        · have := hLater o ho
          omega
      refine ⟨stack, ?_, classAt?_cons_of_lt hPart⟩
      rw [opsUpTo_of_lt hNone, ScopeStack.applyAll_nil]
    · obtain ⟨m, rfl⟩ := Nat.exists_eq_add_of_le hPart
      have hCuts : ∀ o ∈ ops, ∀ k, o.1 = pos + byteSize part + k → k ≤ byteSize back →
          IsBoundary back k := by
        intro o ho k hk hLe
        refine (hBoundary o (List.mem_cons_of_mem _ ho) (byteSize part + k) ?_ ?_).of_append
        · omega
        · rw [byteSize_append]
          omega
      obtain ⟨s, hStack, hClass⟩ := ih hCut hSorted hCuts (i := m) (by omega)
      refine ⟨s, ?_, ?_⟩
      · rw [opsUpTo_cons_of_le (by omega), ScopeStack.applyAll_cons, hApply, ← Nat.add_assoc]
        exact hStack
      · rw [classAt?_cons_add, hClass]

/-- Every byte of the line `l`, which comes after the lines `before`, has the class that its
stack gives. -/
def ClassesLine (stack : ScopeStack) (tokens : List Token) (before : List ParsedLine)
    (l : ParsedLine) : Prop :=
  ∀ i < l.line.byteSize, ∃ s cls,
    stack.applyAll (scopeOps before ++ opsUpTo i l.ops) = .ok s ∧ s.Gives cls ∧
    classAt? tokens ((ParsedLine.text before).byteSize + i) = some cls

theorem exists_parsed_of_cutLines {lines : List Text}
    (h : cutLines parser state stack lines = .ok tokens) :
    ∃ parsed final, parser.Parses state parsed final ∧ parsed.map ParsedLine.line = lines ∧
      ∀ before l after, parsed = before ++ l :: after → l.IsOrdered →
        ClassesLine stack tokens before l := by
  induction lines generalizing state stack tokens with
  | nil =>
    refine ⟨[], state, .nil state, rfl, ?_⟩
    intro before l after hParsed
    cases before <;> cases hParsed
  | cons line lines ih =>
    obtain ⟨ops, next, first, stack', later, hLine, hCut, hLater, rfl⟩ := cutLines_cons_eq_ok_iff.mp h
    obtain ⟨parsed, final, hParses, hLines, hClasses⟩ := ih hLater
    have hSource := source_of_cutLine hCut
    refine ⟨⟨line, ops⟩ :: parsed, final, .cons hLine hParses, congrArg (line :: ·) hLines, ?_⟩
    intro before l after hParsed hOrdered i hi
    cases before with
    | nil =>
      obtain ⟨rfl, rfl⟩ := List.cons.inj hParsed
      obtain ⟨s, hStack, hClass⟩ := classAt?_of_cutLine hCut hOrdered.sorted (fun o ho k hk hLe => by
        rw [Nat.zero_add] at hk
        exact hk ▸ hOrdered.boundary o ho (hk ▸ hLe)) hi
      refine ⟨s, s.tokenClass, ?_, (s.gives_iff _).mpr rfl, ?_⟩
      · rwa [Nat.zero_add] at hStack
      · have hFirst : classAt? (first ++ later) i = classAt? first i :=
          classAt?_append_of_lt (hSource ▸ hi)
        rw [← hClass, ← hFirst]
        exact congrArg _ (Nat.zero_add i)
    | cons head before =>
      obtain ⟨rfl, hTail⟩ := List.cons.inj hParsed
      obtain ⟨s, cls, hStack, hGives, hClass⟩ := hClasses before l after hTail hOrdered i hi
      refine ⟨s, cls, ?_, hGives, ?_⟩
      · rw [scopeOps_cons, List.append_assoc,
          ScopeStack.applyAll_append_of_ok (applyAll_of_cutLine hCut), hStack]
      · rw [text_cons, byteSize_append, Nat.add_assoc, ← hSource, classAt?_append_add, hClass]

/-- What the grammar of a line parser answers for a source. The operations of a line have to be
in order only for the classes in that line. -/
structure IsClassified (language : Text) (parser : LineParser σ) (source : Text)
    (answer : Except GrammarError (List Token)) : Prop where
  classes : ∀ tokens, answer = .ok tokens → ∃ parsed final,
    parser.Parses parser.start parsed final ∧ parsed.map ParsedLine.line = source.lines ∧
    ∀ before l after, parsed = before ++ l :: after → l.IsOrdered →
      ClassesLine .empty tokens before l
  fails_iff : (∃ e, answer = .error e) ↔ parser.FailsOn source
  named : ∀ e, answer = .error e → e.language = language

/-- Every byte has the class of its stack, if all lines parse and all operations apply. Else
there is an error, and it names the language. -/
theorem isClassified_scopedGrammar (language : Text) (parser : LineParser σ) (source : Text) :
    IsClassified language parser source (scopedGrammar language parser source) := by
  refine ⟨?_, exists_error_iff_failsOn language parser source, ?_⟩
  · intro tokens hTokens
    obtain ⟨cut, hCut, rfl⟩ := scopedGrammar_eq_ok_iff.mp hTokens
    obtain ⟨parsed, final, hParses, hLines, hClasses⟩ := exists_parsed_of_cutLines hCut
    refine ⟨parsed, final, hParses, hLines, ?_⟩
    intro before l after hParsed hOrdered i hi
    obtain ⟨s, cls, hStack, hGives, hClass⟩ := hClasses before l after hParsed hOrdered i hi
    exact ⟨s, cls, hStack, hGives, (classAt?_merged cut _).trans hClass⟩
  · intro e hError
    exact (scopedGrammar_eq_error_iff.mp hError).1

end MarkdownEditor
