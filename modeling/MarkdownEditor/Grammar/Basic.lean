import MarkdownEditor.Dictionary
import MarkdownEditor.Text.Lines

/-!
# Grammars

A grammar turns a source text into classed tokens, or fails. The registry maps
language ids to grammars.

A line parser answers for each line with operations at byte offsets on a stack
of scopes such as `keyword.control.mini`, and carries a state from line to line.
`scopedGrammar` cuts the source at these offsets: the text before an operation
has the class of the stack so far, the innermost scope that says more than where
in the structure the text stands. Neighbouring pieces of one class become one
token, also across lines.
-/

namespace MarkdownEditor

set_option autoImplicit false

/-- A run of source text with its class; text that nothing is known about has none. -/
structure Token where
  cls : Option Text
  text : Text
deriving DecidableEq, Repr

/-- The text that the tokens cover. -/
def Token.source (tokens : List Token) : Text := tokens.flatMap Token.text

structure GrammarError where
  language : Text
  message : Text
deriving DecidableEq, Repr

def GrammarError.describe (e : GrammarError) : Text :=
  "failed to tokenize ".toList ++ e.language ++ ": ".toList ++ e.message

abbrev Grammar := Text → Except GrammarError (List Token)

abbrev Registry := Dictionary Grammar

inductive ScopeOp where
  | push (scope : Text)
  | pop (count : Nat)
  /-- Sets aside the `count` innermost scopes, or all of them. -/
  | clear (count : Option Nat)
  /-- Puts back the scopes that were set aside last. -/
  | restore
  | noop
deriving DecidableEq, Repr

/-- The scopes, the innermost one first, and those set aside, the latest first. -/
structure ScopeStack where
  scopes : List Text
  cleared : List (List Text)
deriving DecidableEq, Repr

inductive ScopeError where
  | nothingCleared
deriving DecidableEq, Repr

def ScopeError.message : ScopeError → Text
  | .nothingCleared => "scope stack error: NoClearedScopesToRestore".toList

namespace ScopeStack

def empty : ScopeStack := ⟨[], []⟩

/-- Popping more scopes than there are empties the stack. -/
def apply (stack : ScopeStack) : ScopeOp → Except ScopeError ScopeStack
  | .push scope => .ok { stack with scopes := scope :: stack.scopes }
  | .pop count => .ok { stack with scopes := stack.scopes.drop count }
  | .clear count =>
    let n := count.getD stack.scopes.length
    .ok ⟨stack.scopes.drop n, stack.scopes.take n :: stack.cleared⟩
  | .restore =>
    match stack.cleared with
    | [] => .error .nothingCleared
    | scopes :: cleared => .ok ⟨scopes ++ stack.scopes, cleared⟩
  | .noop => .ok stack

def structureMark : Text := "meta.".toList

/-- The class of text under this stack. The root scope and the scopes that only
describe structure give none. -/
def tokenClass (stack : ScopeStack) : Option Text :=
  let named := stack.scopes.dropLast.find? fun s => !structureMark.isPrefixOf s
  named.map fun s => s.map fun c => if c = '.' then ' ' else c

end ScopeStack

structure LineParser (σ : Type) where
  start : σ
  parseLine : σ → Text → Except Text (List (Nat × ScopeOp) × σ)

namespace Token

/-- Puts a token in front, joined to a first token of the same class. -/
def consMerged (t : Token) (ts : List Token) : List Token :=
  if t.text.isEmpty then ts
  else
    match ts with
    | [] => [t]
    | u :: rest => if t.cls = u.cls then ⟨t.cls, t.text ++ u.text⟩ :: rest else t :: ts

/-- The same text without empty tokens and without neighbours of one class. -/
def merged (ts : List Token) : List Token := ts.foldr consMerged []

end Token

variable {σ : Type}

/-- Cuts the rest of a line, which begins at byte `pos`, at the operations. An
operation that lies before `pos` cuts nothing off, one past the end all. -/
def cutLine (stack : ScopeStack) (pos : Nat) (rest : Text) :
    List (Nat × ScopeOp) → Except ScopeError (List Token × ScopeStack)
  | [] => .ok ([⟨stack.tokenClass, rest⟩], stack)
  | (offset, op) :: ops => do
    let cut := rest.charOffset (offset - pos)
    let part : Text := rest.take cut
    let stack' ← stack.apply op
    let (later, final) ← cutLine stack' (pos + part.byteSize) (rest.drop cut) ops
    return (⟨stack.tokenClass, part⟩ :: later, final)

def cutLines (parser : LineParser σ) (state : σ) (stack : ScopeStack) :
    List Text → Except Text (List Token)
  | [] => .ok []
  | line :: rest => do
    let (ops, state) ← parser.parseLine state line
    let (first, stack) ← (cutLine stack 0 line ops).mapError ScopeError.message
    let later ← cutLines parser state stack rest
    return first ++ later

/-- The grammar of a line parser, registered under `language`. It fails as a
whole when a line does not parse or an operation does not apply. -/
def scopedGrammar (language : Text) (parser : LineParser σ) : Grammar := fun source =>
  match cutLines parser parser.start .empty source.lines with
  | .ok tokens => .ok (Token.merged tokens)
  | .error message => .error ⟨language, message⟩

end MarkdownEditor
