import MarkdownEditor.Command
import MarkdownEditor.Selection
import MarkdownEditor.Text.Ascii
import MarkdownEditor.Text.Blank
import MarkdownEditor.Text.Lowercase

/-!
# Values of arguments

A selection is written as one character offset, or as two with a colon between
them. A formatting command is written as its identifier, in either case.
-/

namespace MarkdownEditor.CommandLine

set_option autoImplicit false

inductive ValueFault where
  | notAnOffset (part : Text)
  | unknownCommand (word : Text)
deriving DecidableEq, Repr

def ValueFault.message : ValueFault → Text
  | .notAnOffset part => ['\''] ++ part ++ "' is not a character offset".toList
  | .unknownCommand word =>
    "unknown command '".toList ++ word ++ "' (expected one of: ".toList ++
      Text.joinWith [',', ' '] (Command.all.map fun c => c.id.toList) ++ [')']

/-- Offsets fit into 64 bits. -/
def maxOffset : Nat := 0xFFFFFFFFFFFFFFFF

/-- The text without one plus sign at its start. -/
def dropPlus : Text → Text
  | '+' :: t => t
  | t => t

/-- An offset is one or more digits, perhaps after a plus sign and between blanks. -/
def offset? (part : Text) : Option Nat :=
  let digits := dropPlus part.trim
  if digits.isEmpty || !digits.all Text.isDigit || maxOffset < Text.ofDigits digits then none
  else some (Text.ofDigits digits)

def readOffset (part : Text) : Except ValueFault Nat :=
  match offset? part with
  | some n => .ok n
  | none => .error (.notAnOffset part)

/-- Splits at the first colon. The result is in ascending order. -/
def readSelection (value : Text) : Except ValueFault Selection :=
  match value.span (· != ':') with
  | (_, []) => do return .caret (← readOffset value)
  | (start, _ :: stop) => do return .between (← readOffset start) (← readOffset stop)

/-- The selection in the form that is read. -/
def selectionText (s : Selection) : Text :=
  Text.decimal s.start ++ [':'] ++ Text.decimal s.stop

def readCommand (word : Text) : Except ValueFault Command :=
  match Command.ofId? (String.ofList (Text.asciiLowercase word)) with
  | some c => .ok c
  | none => .error (.unknownCommand word)

end MarkdownEditor.CommandLine
