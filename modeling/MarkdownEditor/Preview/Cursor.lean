import MarkdownEditor.Text.Ascii

/-!
# Cursors

A place in a line. Columns are counted up to there; a tab reaches to the next
tab stop and can be read in part.
-/

namespace MarkdownEditor.Preview

set_option autoImplicit false

structure Cursor where
  /-- The line from here on. -/
  rest : Text
  column : Nat
  /-- Whether a part of the tab that stands here has been read. -/
  isInTab : Bool
deriving DecidableEq, Repr

namespace Cursor

def tabStop : Nat := 4

def ofLine (line : Text) : Cursor := ⟨line, 0, false⟩

def columnsToTabStop (c : Cursor) : Nat := tabStop - c.column % tabStop

def skipColumn (c : Cursor) : Cursor :=
  match c.rest with
  | [] => c
  | s :: rest =>
    if s = '\t' && c.columnsToTabStop != 1 then ⟨c.rest, c.column + 1, true⟩
    else ⟨rest, c.column + 1, false⟩

def skipColumns : Nat → Cursor → Cursor
  | 0, c => c
  | n + 1, c => skipColumns n c.skipColumn

def skipChar (c : Cursor) : Cursor :=
  match c.rest with
  | [] => c
  | s :: rest => ⟨rest, c.column + (if s = '\t' then c.columnsToTabStop else 1), false⟩

def skipChars : Nat → Cursor → Cursor
  | 0, c => c
  | n + 1, c => skipChars n c.skipChar

def isAtBlank (c : Cursor) : Bool := (c.rest.head?.map Text.isSpaceOrTab).getD false

/-- Reads one column of white space, if there is any. -/
def skipBlankColumn (c : Cursor) : Cursor := if c.isAtBlank then c.skipColumn else c

/-- Reads columns of white space, at most `n` of them. -/
def skipBlankColumns : Nat → Cursor → Cursor
  | 0, c => c
  | n + 1, c => if c.isAtBlank then skipBlankColumns n c.skipColumn else c

def skipIndent (c : Cursor) : Cursor := c.skipChars (c.rest.takeWhile Text.isSpaceOrTab).length

/-- The rest of the line after its indentation. -/
def content (c : Cursor) : Text := c.rest.dropWhile Text.isSpaceOrTab

/-- The width of the white space from here on. -/
def indent (c : Cursor) : Nat := c.skipIndent.column - c.column

def isBlank (c : Cursor) : Bool := c.content.isEmpty

/-- The rest of the line as it becomes content. What is left of a tab is spaces. -/
def text (c : Cursor) : Text :=
  (if c.isInTab then List.replicate c.columnsToTabStop ' ' ++ c.rest.drop 1 else c.rest) ++ ['\n']

/-- The rest of the line without its indentation, as it becomes content. -/
def contentText (c : Cursor) : Text := c.skipIndent.text

end Cursor

end MarkdownEditor.Preview
