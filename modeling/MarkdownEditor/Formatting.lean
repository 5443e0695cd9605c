import MarkdownEditor.Command
import MarkdownEditor.Selection

/-!
# Applying a command

`Command.apply` is a pure function of the text and the selection. It answers
with the new text, the new selection in it, and the single edit that leads
from the old text to the new one.

The selection is clamped first. An inline command wraps the selection in its
marker, or takes the marker away where it already stands directly outside both
ends. A list command does the same with the marker at the start of one line,
the line of the selection's start. A link replaces the selection, or the word
at the caret, and selects its placeholder address. Undo is left to the host.
-/

namespace MarkdownEditor

set_option autoImplicit false

structure Outcome where
  text : Text
  selection : Selection
  edit : Option Edit
  applied : Bool
deriving DecidableEq, Repr

namespace Outcome

def unchanged (t : Text) (s : Selection) : Outcome := ⟨t, s, none, false⟩

/-- The outcome of an edit that adds markup. -/
def added (t : Text) (e : Edit) (s : Selection) : Outcome := ⟨e.apply t, s, some e, true⟩

/-- The outcome of an edit that takes markup away. -/
def removed (t : Text) (e : Edit) (s : Selection) : Outcome := ⟨e.apply t, s, some e, false⟩

def changed (o : Outcome) : Bool := o.edit.isSome

end Outcome

namespace Formatting

/-- Whether `marker` stands directly before and directly after the selection. -/
def isWrapped (marker t : Text) (s : Selection) : Bool :=
  marker.length ≤ s.start && s.stop + marker.length ≤ t.length &&
    t.slice (s.start - marker.length) s.start == marker &&
    t.slice s.stop (s.stop + marker.length) == marker

def toggleInline (marker t : Text) (s : Selection) : Outcome :=
  let n := marker.length
  if isWrapped marker t s then
    .removed t ⟨⟨s.start - n, s.stop + n⟩, s.selected t⟩ ⟨s.start - n, s.stop - n⟩
  else
    .added t ⟨s, marker ++ s.selected t ++ marker⟩ ⟨s.start + n, s.stop + n⟩

/-- How many characters directly before offset `n` satisfy `p`. -/
def runBefore (p : Char → Bool) (t : Text) (n : Nat) : Nat :=
  ((t.take n).reverse.takeWhile p).length

/-- How many characters from offset `n` on satisfy `p`. -/
def runAfter (p : Char → Bool) (t : Text) (n : Nat) : Nat :=
  ((t.drop n).takeWhile p).length

def notLineFeed (c : Char) : Bool := c != '\n'

/-- Where the line that holds offset `n` starts. -/
def lineStart (t : Text) (n : Nat) : Nat := n - runBefore notLineFeed t n

/-- Where the line that holds offset `n` stops, before its line feed. -/
def lineStop (t : Text) (n : Nat) : Nat := n + runAfter notLineFeed t n

def toggleList (marker t : Text) (s : Selection) : Outcome :=
  let n := marker.length
  let start := lineStart t s.start
  if marker.isPrefixOf (t.slice start (lineStop t s.start)) then
    let shift (offset : Nat) := max (offset - n) start
    .removed t ⟨⟨start, start + n⟩, []⟩ ⟨shift s.start, shift s.stop⟩
  else
    .added t ⟨.caret start, marker⟩ ⟨s.start + n, s.stop + n⟩

/-- ASCII letters and digits, the underscore and the hyphen make up a word. -/
def isLinkWordChar (c : Char) : Bool := c.isAlphanum || c == '_' || c == '-'

/-- The word around offset `n`, possibly empty. -/
def wordAt (t : Text) (n : Nat) : Selection :=
  ⟨n - runBefore isLinkWordChar t n, n + runAfter isLinkWordChar t n⟩

def linkPlaceholder : Text := ['t', 'e', 'x', 't']

def addressPlaceholder : Text := ['u', 'r', 'l']

def insertLink (t : Text) (s : Selection) : Outcome :=
  let range := if s.isCaret then wordAt t s.start else s
  let chosen := range.selected t
  let label := if chosen.isEmpty then linkPlaceholder else chosen
  let address := range.start + label.length + 3
  .added t ⟨range, ['['] ++ label ++ [']', '('] ++ addressPlaceholder ++ [')']⟩
    ⟨address, address + addressPlaceholder.length⟩

end Formatting

open Formatting in
def Command.apply (c : Command) (t : Text) (s : Selection) : Outcome :=
  let s := s.clamp t
  match c.inlineMarker?, c.listMarker? with
  | some marker, _ => toggleInline marker t s
  | none, some marker => toggleList marker t s
  | none, none =>
    match c with
    | .link => insertLink t s
    | _ => .unchanged t s

end MarkdownEditor
