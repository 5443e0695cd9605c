import MarkdownEditor.Grammar.Basic
import MarkdownEditor.Grammar.Pattern
import MarkdownEditor.Text.Lowercase

/-!
# Context grammars

A context grammar is a set of named contexts with rules. The line is searched
from the current place on, and of the rules of the innermost context the one
that matches earliest wins, the first listed one on a tie. A rule scopes what it
matches and may enter a context or leave the current one. The contexts stay
open from line to line, and the main context can not be left for good.

A catalog lists languages with their full name and the extensions of their
files. A language is looked up by an extension or by its name, whatever the
case of the ASCII letters; of several the last one listed is meant, and an
extension goes before a name.
-/

namespace MarkdownEditor

set_option autoImplicit false

inductive ContextAction where
  | stay
  | enter (context : Text)
  | leave

structure ContextRule where
  pattern : Pattern
  scope : Option Text
  captures : List (Nat × Text)
  action : ContextAction

namespace ContextRule

def marking (pattern : Pattern) (scope : String) : ContextRule :=
  ⟨pattern, some scope.toList, [], .stay⟩

def entering (pattern : Pattern) (scope context : String) : ContextRule :=
  ⟨pattern, some scope.toList, [], .enter context.toList⟩

def leaving (pattern : Pattern) (scope : String) : ContextRule :=
  ⟨pattern, some scope.toList, [], .leave⟩

end ContextRule

structure Context where
  /-- The scopes of everything in the context, the outermost first. -/
  scopes : List Text
  rules : List ContextRule

structure ContextGrammar where
  rootScope : Text
  main : List ContextRule
  contexts : List (Text × Context)

namespace ContextGrammar

/-- Whether the root scope was pushed, and the open contexts, the innermost first. -/
structure State where
  started : Bool
  contexts : List Context

/-- A rule that matched, where, and what its groups matched. -/
structure Found where
  rule : ContextRule
  start : Pattern.Cursor
  stop : Pattern.Cursor
  captures : List Pattern.Capture

def ContextAction.leaves : ContextAction → Bool
  | .leave => true
  | _ => false

/-- The first rule that matches at the cursor. A match of no characters counts
only if it leaves the context. -/
def matchAt (rules : List ContextRule) (cur : Pattern.Cursor) : Option Found :=
  rules.findSome? fun rule =>
    match rule.pattern.run cur with
    | [] => none
    | (stop, captures) :: _ =>
      if stop.offset = cur.offset && !ContextAction.leaves rule.action then none
      else some ⟨rule, cur, stop, captures⟩

/-- The earliest match from the cursor on. -/
def search (rules : List ContextRule) (before : Option Char) (offset : Nat) :
    Text → Option Found
  | [] => matchAt rules ⟨before, offset, []⟩
  | c :: rest =>
    match matchAt rules ⟨before, offset, c :: rest⟩ with
    | some found => some found
    | none => search rules (some c) (offset + c.utf8Size) rest

def unresolved (name : Text) : Text :=
  "Tried to use a ContextReference that has not bee resolved yet: Named(\"".toList ++ name ++
    "\")".toList

def captureOps (rule : ContextRule) (captures : List Pattern.Capture) : List (Nat × ScopeOp) :=
  captures.flatMap fun capture =>
    match rule.captures.find? fun (number, _) => number == capture.number with
    | some (_, scope) =>
      if capture.start = capture.stop then []
      else [(capture.start, .push scope), (capture.stop, .pop 1)]
    | none => []

/-- The operations for what the rule matched, between those for its context. -/
def scopeOps (found : Found) : List (Nat × ScopeOp) :=
  found.rule.scope.toList.map (fun s => (found.start.offset, .push s)) ++
    captureOps found.rule found.captures ++
    found.rule.scope.toList.map (fun _ => (found.stop.offset, .pop 1))

/-- The operations of a match and the contexts that are open after it. -/
def act (g : ContextGrammar) (contexts : List Context) (found : Found) :
    Except Text (List (Nat × ScopeOp) × List Context) :=
  match found.rule.action with
  | .stay => .ok (scopeOps found, contexts)
  | .enter name =>
    match g.contexts.find? fun (n, _) => n == name with
    | none => .error (unresolved name)
    | some (_, context) =>
      .ok (context.scopes.map (fun s => (found.start.offset, .push s)) ++ scopeOps found,
        context :: contexts)
  | .leave =>
    match contexts with
    | [] => .ok (scopeOps found, [])
    | context :: outer =>
      .ok (scopeOps found ++ [(found.stop.offset, .pop context.scopes.length)], outer)

def rulesOf (g : ContextGrammar) : List Context → List ContextRule
  | [] => g.main
  | context :: _ => context.rules

/-- Parses the rest of a line. A match that neither consumes anything nor closes
a context would repeat itself, so it ends the line. -/
def parseFrom (g : ContextGrammar) (contexts : List Context) (cur : Pattern.Cursor) :
    Except Text (List (Nat × ScopeOp) × List Context) :=
  match search (g.rulesOf contexts) cur.before cur.offset cur.rest with
  | none => .ok ([], contexts)
  | some found =>
    match g.act contexts found with
    | .error message => .error message
    | .ok (ops, next) =>
      if _h : found.stop.rest.length < cur.rest.length ∨
          (found.stop.rest.length = cur.rest.length ∧ next.length < contexts.length) then
        match parseFrom g next found.stop with
        | .error message => .error message
        | .ok (later, final) => .ok (ops ++ later, final)
      else .ok (ops, next)
termination_by (cur.rest.length, contexts.length)
decreasing_by
  rcases _h with hShorter | ⟨hSame, hClosed⟩
  · exact Prod.Lex.left _ _ hShorter
  · rw [hSame]
    exact Prod.Lex.right _ hClosed

def parser (g : ContextGrammar) : LineParser State where
  start := ⟨false, []⟩
  parseLine state line :=
    match parseFrom g state.contexts ⟨none, 0, line⟩ with
    | .error message => .error message
    | .ok (ops, contexts) =>
      let root := if state.started then [] else [(0, ScopeOp.push g.rootScope)]
      .ok (root ++ ops, ⟨true, contexts⟩)

/-- The grammar under the id it is registered with. -/
def grammar (g : ContextGrammar) (language : Text) : Grammar := scopedGrammar language g.parser

end ContextGrammar

structure Language where
  name : Text
  extensions : List Text
  definition : ContextGrammar

abbrev Catalog := List Language

def sameLetters (a b : Text) : Bool := a.asciiLowercase == b.asciiLowercase

def Catalog.find? (catalog : Catalog) (word : Text) : Option Language :=
  (catalog.reverse.find? fun l => l.extensions.any (sameLetters word)).or
    (catalog.reverse.find? fun l => sameLetters word l.name)

end MarkdownEditor
