import MarkdownEditor.Preview.Reference

/-!
# Documents

A document is a list of blocks. The text of a block is read on its own, as
inline content: texts, code, emphasis, links, images and line breaks. What is
understood beyond plain markdown, and whether raw markup is passed on, are
options of the preview.
-/

namespace MarkdownEditor

set_option autoImplicit false

structure PreviewOptions where
  tables : Bool
  strikethrough : Bool
  autolink : Bool
  tasklist : Bool
  allowRawHtml : Bool
  hardBreaks : Bool
deriving DecidableEq, Repr

namespace PreviewOptions

def default : PreviewOptions := ⟨true, true, true, true, false, false⟩

instance : Inhabited PreviewOptions := ⟨default⟩

end PreviewOptions

namespace Preview

inductive Inline where
  | text (content : Text)
  | code (content : Text)
  | emphasis (children : List Inline)
  | strong (children : List Inline)
  | deleted (children : List Inline)
  | link (target : Target) (children : List Inline)
  | image (target : Target) (children : List Inline)
  /-- A single tag, as it was written. -/
  | html (content : Text)
  | softBreak
  | hardBreak

namespace Inline

/-- The emphasis that a run of delimiters stands for, of which it uses up `count`. -/
def wrap (mark : Char) (count : Nat) (children : List Inline) : Inline :=
  if mark = '~' then .deleted children
  else if count = 1 then .emphasis children
  else .strong children

/-- Puts a text before other content. Two texts in a row are one. -/
def consText (content : Text) : List Inline → List Inline
  | .text more :: rest => .text (content ++ more) :: rest
  | rest => .text content :: rest

mutual

/-- The same content without neighbouring texts. -/
def joined : Inline → Inline
  | .emphasis children => .emphasis (joinedAll children)
  | .strong children => .strong (joinedAll children)
  | .deleted children => .deleted (joinedAll children)
  | i => i

def joinedAll : List Inline → List Inline
  | [] => []
  | .text content :: rest => consText content (joinedAll rest)
  | i :: rest => joined i :: joinedAll rest

end

mutual

/-- The content without its structure, as it describes an image. -/
def plainText : Inline → Text
  | .text content => content
  | .code content => content
  | .html content => content
  | .emphasis children => plainTexts children
  | .strong children => plainTexts children
  | .deleted children => plainTexts children
  | .link _ children => plainTexts children
  | .image _ children => plainTexts children
  | .softBreak => [' ']
  | .hardBreak => [' ']

def plainTexts : List Inline → Text
  | [] => []
  | i :: rest => plainText i ++ plainTexts rest

end

end Inline

inductive Alignment where
  | unset
  | left
  | center
  | right
deriving DecidableEq, Repr

inductive ListKind where
  /-- Items that start with the same bullet. -/
  | bullet (mark : Char)
  /-- Items that start with a number and the same mark after it. -/
  | numbered (first : Nat) (mark : Char)
deriving DecidableEq, Repr

namespace ListKind

/-- Whether an item of the second kind goes on a list of the first. -/
def continuedBy : ListKind → ListKind → Bool
  | bullet m, bullet n => m == n
  | numbered _ m, numbered _ n => m == n
  | _, _ => false

end ListKind

structure Table where
  alignments : List Alignment
  header : List Text
  rows : List (List Text)
deriving DecidableEq, Repr

inductive Block where
  | paragraph (content : Text)
  | heading (level : Nat) (content : Text)
  | code (info content : Text)
  | html (content : Text)
  | rule
  | table (table : Table)
  | quote (children : List Block)
  /-- A list is loose if blank lines stand between its parts. -/
  | items (kind : ListKind) (isLoose : Bool) (children : List (List Block))

structure Document where
  blocks : List Block
  /-- The definitions in the order in which they were read. -/
  definitions : List Definition

end Preview

end MarkdownEditor
