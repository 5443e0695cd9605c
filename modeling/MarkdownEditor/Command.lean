import MarkdownEditor.Text.Basic

/-!
# Formatting commands

The commands of the editor, in toolbar order, with the name shown to people
and the identifier used on the command line.
-/

namespace MarkdownEditor

set_option autoImplicit false

inductive Command where
  | bold
  | italic
  | inlineCode
  | link
  | orderedList
  | unorderedList
  | undo
deriving DecidableEq, Repr

namespace Command

def all : List Command :=
  [bold, italic, inlineCode, link, orderedList, unorderedList, undo]

def name : Command → String
  | bold => "Bold"
  | italic => "Italic"
  | inlineCode => "Inline Code"
  | link => "Insert Link"
  | orderedList => "Numbered List"
  | unorderedList => "Bullet List"
  | undo => "Undo"

def id : Command → String
  | bold => "bold"
  | italic => "italic"
  | inlineCode => "code"
  | link => "link"
  | orderedList => "ordered-list"
  | unorderedList => "unordered-list"
  | undo => "undo"

def ofId? (id : String) : Option Command :=
  all.find? fun c => c.id == id

/-- The marker an inline command puts on both sides of the selection. -/
def inlineMarker? : Command → Option Text
  | bold => some ['*', '*']
  | italic => some ['*']
  | inlineCode => some ['\x60']
  | _ => none

/-- The marker a list command puts at the start of a line. -/
def listMarker? : Command → Option Text
  | orderedList => some ['1', '.', ' ']
  | unorderedList => some ['-', ' ']
  | _ => none

theorem mem_all (c : Command) : c ∈ all := by
  cases c <;> simp [all]

end Command

end MarkdownEditor
