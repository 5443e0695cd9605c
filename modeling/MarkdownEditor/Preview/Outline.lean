import MarkdownEditor.Preview.LineStart

/-!
# Outlines

A document as far as it is read: the blocks that are open, the innermost first,
and in each of them the blocks that are closed. Blank lines are remembered where
they can make a list loose.
-/

namespace MarkdownEditor.Preview

set_option autoImplicit false

/-- A closed block. A list item counts as one, with all its blocks. -/
structure Closed where
  blocks : List Block
  /-- Whether a blank line follows it. -/
  isBlank : Bool
  /-- For lists and items: whether a blank line ends their parts, the last part first. -/
  partEnds : List Bool

/-- Whether a blank line ends a block: it follows the block or ends its last part. -/
def endsBlank (isBlank : Bool) (partEnds : List Bool) : Bool := isBlank || partEnds.headD false

namespace Closed

def endsBlank (b : Closed) : Bool := Preview.endsBlank b.isBlank b.partEnds

end Closed

/-- Whether blank lines stand between items or between the blocks of one. For each item, the
last one first, it is given whether a blank line follows it and which of its blocks end with
one. -/
def isLooseList : List (Bool × List Bool) → Bool
  | [] => false
  | last :: before =>
    last.2.tail.any id || before.any fun (isBlank, partEnds) => isBlank || partEnds.any id

/-- Texts are lists of lines, the last line first. -/
inductive Shape where
  | document
  | quote
  /-- `isLoose` is known once a block that is no item follows. -/
  | items (kind : ListKind) (isLoose : Option Bool)
  /-- The further lines of an item are indented by `width`. -/
  | item (width : Nat)
  /-- `isNoHeader` says that a delimiter row did not match the last line. -/
  | paragraph (isNoHeader : Bool) (lines : List Text)
  | heading (level : Nat) (content : Text)
  | indented (lines : List Text)
  | fenced (fence : Fence) (lines : List Text)
  | html (markupEnd : MarkupEnd) (lines : List Text)
  | rule
  | table (alignments : List Alignment) (header : List Text) (rows : List (List Text))

structure Frame where
  shape : Shape
  /-- The last one first. -/
  children : List Closed
  isBlank : Bool

/-- Whether the first line of the text is blank. -/
def startsBlank (t : Text) : Bool := (afterLineEnd? t).isSome

def joinLines (lines : List Text) : Text := lines.reverse.flatten

namespace Shape

def isList : Shape → Bool
  | .items _ _ => true
  | _ => false

def isItem : Shape → Bool
  | .item _ => true
  | _ => false

def isParagraph : Shape → Bool
  | .paragraph _ _ => true
  | _ => false

/-- Whether the block can hold the other one directly. -/
def holds (s child : Shape) : Bool :=
  match s with
  | .document => !child.isItem
  | .quote => !child.isItem
  | .item _ => !child.isItem
  | .items _ _ => child.isItem
  | _ => false

/-- Whether a blank line at the block's end is remembered. `isNew` says that the block starts
with the line. -/
def remembersBlank (s : Shape) (isNew : Bool) : Bool :=
  match s with
  | .quote => false
  | .heading _ _ => false
  | .rule => false
  | .fenced _ _ => false
  | .item _ => !isNew
  | _ => true

def addText (t : Text) : Shape → Shape
  | .paragraph isNoHeader lines => .paragraph isNoHeader (t :: lines)
  | .indented lines => .indented (t :: lines)
  | .fenced f lines => .fenced f (t :: lines)
  | .html e lines => .html e (t :: lines)
  | s => s

end Shape

namespace Frame

def ofShape (s : Shape) : Frame := ⟨s, [], false⟩

def addText (t : Text) (f : Frame) : Frame := { f with shape := f.shape.addText t }

/-- Whether blank lines end the parts of the block. Other blocks than lists and items have no
parts. -/
def partEnds (f : Frame) : List Bool :=
  if f.shape.isList || f.shape.isItem then f.children.map Closed.endsBlank else []

/-- The text of the first line of a fence: the language of its code and what else is said. -/
def fenceInfo (line : Text) : Text := dropEscapes (Text.trimAscii (decodeEntities line))

def isBlankLine (line : Text) : Bool := line.all fun c => Text.isSpaceOrTab c || c == '\n'

/-- The blocks that the open block becomes, and the definitions that stand in it. -/
def blocks (f : Frame) : List Block × List Definition :=
  let children := (f.children.reverse.map Closed.blocks).flatten
  match f.shape with
  | .document => (children, [])
  | .quote => ([.quote children], [])
  | .item _ => (children, [])
  | .items kind isLoose =>
    let isLoose := isLoose.getD (isLooseList (f.children.map fun b => (b.isBlank, b.partEnds)))
    ([.items kind isLoose (f.children.reverse.map Closed.blocks)], [])
  | .paragraph _ lines =>
    let (definitions, rest) := takeDefinitions (joinLines lines)
    (if startsBlank rest then [] else [.paragraph rest], definitions)
  | .heading level content => ([.heading level content], [])
  | .indented lines => ([.code [] (joinLines (lines.dropWhile isBlankLine))], [])
  | .fenced _ lines =>
    let code := lines.dropLast
    ([.code (fenceInfo (lines.getLastD [])) (joinLines code)], [])
  | .html _ lines => ([.html (joinLines lines)], [])
  | .rule => ([.rule], [])
  | .table alignments header rows => ([.table ⟨alignments, header, rows.reverse⟩], [])

/-- The closed block. A paragraph of definitions leaves none. -/
def close (f : Frame) : List Closed × List Definition :=
  let (blocks, definitions) := f.blocks
  (if f.shape.isParagraph && blocks.isEmpty then [] else [⟨blocks, f.isBlank, f.partEnds⟩],
    definitions)

end Frame

structure Outline where
  /-- The innermost one first; the last one is the document. -/
  frames : List Frame
  /-- The last one first. -/
  definitions : List Definition

namespace Outline

def empty : Outline := ⟨[Frame.ofShape .document], []⟩

def modifyFirst (u : Outline) (f : Frame → Frame) : Outline :=
  { u with frames := u.frames.modifyHead f }

def addText (u : Outline) (t : Text) : Outline := u.modifyFirst (Frame.addText t)

def closeFirst (u : Outline) : Outline :=
  match u.frames with
  | f :: parent :: outer =>
    let (closed, definitions) := f.close
    ⟨{ parent with children := closed ++ parent.children } :: outer,
      definitions.reverse ++ u.definitions⟩
  | _ => u

def closeMany : Nat → Outline → Outline
  | 0, u => u
  | n + 1, u => closeMany n u.closeFirst

/-- What blank lines say about a block whose inner blocks, the innermost first, are open. -/
def openSpacing (inner : Option (Bool × List Bool)) : List Frame → Option (Bool × List Bool)
  | [] => inner
  | f :: outer =>
    let ends := inner.map fun (isBlank, partEnds) => endsBlank isBlank partEnds
    let parts := if f.shape.isList || f.shape.isItem then ends.toList ++ f.partEnds else []
    openSpacing (some (f.isBlank, parts)) outer

/-- Decides whether a list is loose while the blocks in it are still open. -/
def settleList (inner : List Frame) (f : Frame) : Frame :=
  match f.shape with
  | .items kind none =>
    let spacings := (openSpacing none inner).toList ++
      f.children.map fun b => (b.isBlank, b.partEnds)
    { f with shape := .items kind (some (isLooseList spacings)) }
  | _ => f

/-- Opens a block in the one below `unmatched` others, which are closed. A block that cannot
hold it is closed as well. -/
def addBlock (u : Outline) (unmatched : Nat) (s : Shape) : Outline :=
  let (inner, outer) := u.frames.splitAt unmatched
  let u :=
    match outer with
    | [] => u
    | container :: outer =>
      if container.shape.holds s then closeMany unmatched u
      else
        closeMany (unmatched + 1) { u with frames := inner ++ settleList inner container :: outer }
  { u with frames := Frame.ofShape s :: u.frames }

/-- Notes for the block below `unmatched` others whether the line that ends here is blank. -/
def noteBlank (u : Outline) (unmatched : Nat) (isBlank isNew : Bool) : Outline :=
  let (inner, outer) := u.frames.splitAt unmatched
  match outer with
  | [] => u
  | container :: outer =>
    let isInnerless := inner.isEmpty
    let mark (b : Closed) : Closed := if isBlank then { b with isBlank := true } else b
    let inner :=
      inner.dropLast ++ inner.getLast?.toList.map fun f => { f with isBlank := f.isBlank || isBlank }
    let container :=
      { container with
        isBlank := isBlank && container.shape.remembersBlank isNew
        children := if isInnerless then container.children.modifyHead mark else container.children }
    { u with
      frames := inner ++ container :: outer.map fun f => { f with isBlank := false } }

/-- The document, with all its blocks closed. -/
def finish (u : Outline) : Document :=
  let u := closeMany u.frames.length u
  ⟨(u.frames.map fun f => f.blocks.1).flatten, u.definitions.reverse⟩

end Outline

end MarkdownEditor.Preview
