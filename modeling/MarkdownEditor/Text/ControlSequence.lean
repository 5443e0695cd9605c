import MarkdownEditor.Text.Ascii
import MarkdownEditor.Text.Utf8

/-!
# Control sequences

Characters that would act on a terminal instead of being shown: control
characters other than white space, and the sequences that start with an escape
character. `dropSequences` removes them. White space within a sequence is kept,
and so is what follows it up to the next control character; only then the
sequence goes on.
-/

namespace MarkdownEditor.Text

set_option autoImplicit false

/-- What the characters so far have begun. -/
inductive Sequence where
  | none
  | escape
  /-- An escape character and further signs that belong to its command. -/
  | intermediate
  /-- A command with parameters. -/
  | parameters
  /-- A command for the operating system. It ends with a bell, too. -/
  | command
  /-- Any other text that is not shown. -/
  | string
deriving DecidableEq, Repr

def escapeChar : Char := '\x1b'

def cancelsSequence (c : Char) : Bool := c == '\x18' || c == '\x1a'

def isControlSpace (c : Char) : Bool := c == '\t' || c == '\n' || c == '\x0c' || c == '\r'

/-- Whether the character shows outside of sequences. -/
def isShown (c : Char) : Bool := (' ' ≤ c && c != '\x7f') || isControlSpace c

/-- Whether one of the bytes of the character is the one that ends a string. -/
def endsString (c : Char) : Bool := (encode [c]).contains 0x9C

namespace Sequence

/-- The sequence after a character that neither cancels it nor starts a new one. -/
def afterSign (s : Sequence) (c : Char) : Sequence :=
  match s with
  | .none => .none
  | .escape =>
    if c = '[' then .parameters
    else if c = ']' then .command
    else if c = 'P' || c = 'X' || c = '^' || c = '_' then .string
    else if ' ' ≤ c && c ≤ '/' then .intermediate
    else if '0' ≤ c && c ≤ '~' then .none
    else .escape
  | .intermediate => if '0' ≤ c && c ≤ '~' then .none else .intermediate
  | .parameters => if '@' ≤ c && c ≤ '~' then .none else .parameters
  | .command => if c = '\x07' then .none else .command
  | .string => if endsString c then .none else .string

def after (s : Sequence) (c : Char) : Sequence :=
  if c = escapeChar then .escape else if cancelsSequence c then .none else s.afterSign c

/-- Whether a character shows although the sequence has begun. -/
def shows (s : Sequence) (c : Char) : Bool :=
  match s with
  | .none => isShown c
  | .escape => isControlSpace c
  | .intermediate => isControlSpace c
  | .parameters => isControlSpace c
  | .command => false
  | .string => false

end Sequence

/-- `showing` says that the last character was shown. A shown character outside of ASCII
ends the sequence. -/
def dropSequencesFrom (showing : Bool) (s : Sequence) : Text → Text
  | [] => []
  | c :: t =>
    if showing && isShown c then c :: dropSequencesFrom true (if isAscii c then s else .none) t
    else if s.shows c then c :: dropSequencesFrom true (s.after c) t
    else dropSequencesFrom false (s.after c) t

def dropSequences (t : Text) : Text := dropSequencesFrom false .none t

end MarkdownEditor.Text
