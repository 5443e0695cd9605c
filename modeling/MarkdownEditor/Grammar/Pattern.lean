import MarkdownEditor.Text.WordChar

/-!
# Patterns

The patterns of a context grammar: a regular expression over the characters of
one line, with anchors, look-ahead and numbered groups. `run` lists the matches
at a cursor in order of preference: an alternative listed first is preferred,
and a repetition prefers to go on.
-/

namespace MarkdownEditor

set_option autoImplicit false

inductive Pattern where
  | char (p : Char → Bool)
  /-- Any number of characters. -/
  | many (p : Char → Bool)
  | literal (t : Text)
  | seq (first second : Pattern)
  | either (first second : Pattern)
  | maybe (inner : Pattern)
  | wordBoundary
  | lineEnd
  | ahead (inner : Pattern)
  | notAhead (inner : Pattern)
  | group (number : Nat) (inner : Pattern)

namespace Pattern

/-- A place in a line: the character before it, its byte offset, and what follows. -/
structure Cursor where
  before : Option Char
  offset : Nat
  rest : Text

def Cursor.advance (cur : Cursor) (c : Char) (rest : Text) : Cursor :=
  ⟨some c, cur.offset + c.utf8Size, rest⟩

/-- The bytes that a numbered group matched. -/
structure Capture where
  number : Nat
  start : Nat
  stop : Nat

abbrev Match := Cursor × List Capture

def runChar (p : Char → Bool) (cur : Cursor) : List Cursor :=
  match cur.rest with
  | [] => []
  | c :: rest => if p c then [cur.advance c rest] else []

/-- The cursors after 0, 1, 2, ... characters that satisfy `p`, the last one first. -/
def runMany (p : Char → Bool) (before : Option Char) (offset : Nat) (found : List Cursor) :
    Text → List Cursor
  | [] => ⟨before, offset, []⟩ :: found
  | c :: rest =>
    let found := ⟨before, offset, c :: rest⟩ :: found
    if p c then runMany p (some c) (offset + c.utf8Size) found rest else found

def runLiteral (t : Text) (cur : Cursor) : List Cursor :=
  match t with
  | [] => [cur]
  | c :: t =>
    match cur.rest with
    | [] => []
    | d :: rest => if c = d then runLiteral t (cur.advance d rest) else []

def atWordBoundary (cur : Cursor) : Bool :=
  cur.before.any Text.isWordChar != cur.rest.head?.any Text.isWordChar

def atLineEnd (cur : Cursor) : Bool := cur.rest.head?.all (· == '\n')

def run : Pattern → Cursor → List Match
  | char p, cur => (runChar p cur).map (·, [])
  | many p, cur => (runMany p cur.before cur.offset [] cur.rest).map (·, [])
  | literal t, cur => (runLiteral t cur).map (·, [])
  | seq a b, cur =>
    (run a cur).flatMap fun (next, captures) =>
      (run b next).map fun (last, more) => (last, captures ++ more)
  | either a b, cur => run a cur ++ run b cur
  | maybe a, cur => run a cur ++ [(cur, [])]
  | wordBoundary, cur => if atWordBoundary cur then [(cur, [])] else []
  | lineEnd, cur => if atLineEnd cur then [(cur, [])] else []
  | ahead a, cur => if (run a cur).isEmpty then [] else [(cur, [])]
  | notAhead a, cur => if (run a cur).isEmpty then [(cur, [])] else []
  | group n a, cur =>
    (run a cur).map fun (next, captures) => (next, ⟨n, cur.offset, next.offset⟩ :: captures)

/-- The character `c` and no other. -/
def sign (c : Char) : Pattern := char (· == c)

/-- One or more characters. -/
def oneOrMore (p : Char → Bool) : Pattern := seq (char p) (many p)

def sequence : List Pattern → Pattern
  | [] => literal []
  | [a] => a
  | a :: rest => seq a (sequence rest)

def oneOf : List Pattern → Pattern
  | [] => char fun _ => false
  | [a] => a
  | a :: rest => either a (oneOf rest)

/-- One of the words, between two word boundaries. -/
def wholeWord (words : List String) : Pattern :=
  sequence [wordBoundary, oneOf (words.map fun w => literal w.toList), wordBoundary]

def isDecimal (c : Char) : Bool := '0' ≤ c && c ≤ '9'

def notLineFeed (c : Char) : Bool := c != '\n'

end Pattern

end MarkdownEditor
