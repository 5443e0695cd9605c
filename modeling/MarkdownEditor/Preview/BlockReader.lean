import MarkdownEditor.Preview.Document
import MarkdownEditor.Preview.Outline
import MarkdownEditor.Preview.TableRow

/-!
# Reading blocks

A document is read line by line. A line goes on some of the open blocks, the
outermost first; what is left of it can start further blocks, and the rest is
text of the innermost one. A paragraph goes on although blocks around it do not
if the line starts nothing else.
-/

namespace MarkdownEditor.Preview

set_option autoImplicit false

inductive Continuation where
  | goesOn (c : Cursor)
  | ends
  /-- The line is the closing fence of the block. -/
  | isClosed

/-- What the line does to an open block. `isLeaf` says that nothing is in the block. -/
def continuation (s : Shape) (isLeaf : Bool) (c : Cursor) : Continuation :=
  let goesOnIf (holds : Bool) : Continuation := if holds then .goesOn c else .ends
  match s with
  | .document => .goesOn c
  | .items _ _ => .goesOn c
  | .rule => .goesOn c
  | .heading _ _ => .ends
  | .quote =>
    if c.indent < codeIndent && c.content.head? == some '>' then
      .goesOn (c.skipColumns (c.indent + 1)).skipBlankColumn
    else .ends
  | .item width =>
    if width ≤ c.indent then .goesOn (c.skipColumns width)
    else if c.isBlank && !isLeaf then .goesOn c.skipIndent
    else .ends
  | .indented _ =>
    if codeIndent ≤ c.indent then .goesOn (c.skipColumns codeIndent)
    else if c.isBlank then .goesOn c.skipIndent
    else .ends
  | .fenced f _ =>
    if c.indent < codeIndent && f.isClosedBy c.content then .isClosed
    else .goesOn (c.skipBlankColumns f.indent)
  | .html e _ => goesOnIf (e != .blankLine || !c.isBlank)
  | .paragraph _ _ => goesOnIf (!c.isBlank)
  | .table _ _ _ => goesOnIf (!(rowCells c.content).isEmpty)

/-- How far a line goes on the open blocks. -/
inductive Reach where
  /-- So many of the innermost blocks do not go on. -/
  | upTo (unmatched : Nat) (c : Cursor)
  | closingFence

/-- Goes on with blocks from the outermost one on. -/
def reach (c : Cursor) : List Frame → Reach
  | [] => .upTo 0 c
  | f :: inner =>
    match continuation f.shape (inner.isEmpty && f.children.isEmpty) c with
    | .goesOn c => reach c inner
    | .ends => .upTo (inner.length + 1) c
    | .isClosed => .closingFence

/-- What starts at a place of a line. -/
inductive Start where
  /-- A quote or an item, in which the rest of the line can start something else. -/
  | container (shapes : List Shape) (c : Cursor)
  /-- A block that takes the rest of the line. -/
  | leaf (s : Shape)
  /-- A block of raw markup, which may end with the line. -/
  | markup (e : MarkupEnd)
  /-- The line makes a heading of the paragraph. -/
  | underline (level : Nat)
  /-- The line makes a table of the last line of the paragraph, or tries to. -/
  | delimiterRow (alignments : List Alignment)
  | row

/-- The order in which starts are tried. -/
def firstStart (starts : List (Unit → Option Start)) : Option Start :=
  starts.findSome? fun start => start ()

def quoteStart? (c : Cursor) : Option Start :=
  if c.content.head? = some '>' then
    some (.container [.quote] (c.skipIndent.skipChar).skipBlankColumn)
  else none

def headingStart? (c : Cursor) : Option Start :=
  (heading? c.content).map fun h => .leaf (.heading h.level h.content)

def codeStart? (c : Cursor) : Option Start :=
  (fenceStart? c.content).map fun (mark, size, info) =>
    .leaf (.fenced ⟨mark, size, c.rest.length - c.content.length⟩ [info ++ ['\n']])

/-- A tag alone starts raw markup too, but not within a paragraph. -/
def markupStart? (container : Shape) (c : Cursor) : Option Start :=
  match markupEnd? c.content with
  | some e => some (.markup e)
  | none =>
    if !container.isParagraph && isLoneTag c.content then some (.markup .blankLine) else none

def underlineStart? (container : Shape) (c : Cursor) : Option Start :=
  if container.isParagraph then (underline? c.content).map Start.underline else none

def ruleStart? (c : Cursor) : Option Start :=
  if isRule c.content then some (.leaf .rule) else none

def itemStart? (container : Shape) (c : Cursor) : Option Start :=
  match marker? c.content with
  | none => none
  | some m =>
    if container.isParagraph && !m.interrupts (c.content.drop m.size) then none
    else
      let (width, content) := m.content c
      let isContinued :=
        match container with
        | .items kind _ => kind.continuedBy m.kind
        | _ => false
      let shapes := if isContinued then [.item width] else [.items m.kind none, .item width]
      some (.container shapes content)

def tableStart? (container : Shape) (c : Cursor) : Option Start :=
  match container with
  | .paragraph false _ => (delimiterRow? c.content).map Start.delimiterRow
  | .table _ _ _ => if (rowCells c.content).isEmpty then none else some .row
  | _ => none

/-- How many starts of a line are looked at for the start of a list. -/
def maxListStarts : Nat := 100

/-- What starts here in a block. Indented code does not go before the text of a paragraph, which
`isLazy` tells to be open. -/
def start? (o : PreviewOptions) (container : Shape) (isLazy : Bool) (count : Nat) (c : Cursor) :
    Option Start :=
  if c.isBlank then none
  else if codeIndent ≤ c.indent then
    if isLazy then none
    else some (.leaf (.indented [(c.skipColumns codeIndent).text]))
  else
    firstStart
      [fun _ => quoteStart? c, fun _ => headingStart? c, fun _ => codeStart? c,
        fun _ => markupStart? container c, fun _ => underlineStart? container c,
        fun _ => ruleStart? c,
        fun _ => if count < maxListStarts then itemStart? container c else none,
        fun _ => if o.tables then tableStart? container c else none]

namespace Outline

/-- Adds text to the innermost block, in a paragraph of its own if the block takes none. -/
def addContent (u : Outline) (c : Cursor) : Outline :=
  match u.frames with
  | [] => u
  | f :: _ =>
    match f.shape with
    | .indented _ => u.addText c.text
    | .fenced _ _ => u.addText c.text
    | .html e _ =>
      let u := u.addText c.text
      if e.isLastLine c.content then u.closeFirst else u
    | .paragraph _ _ => if c.isBlank then u else u.addText c.contentText
    | _ => if c.isBlank then u else u.addBlock 0 (.paragraph false [c.contentText])

/-- Adds the rest of a line that starts no block. A paragraph takes it although the blocks
around it do not go on. -/
def addRest (u : Outline) (unmatched : Nat) (isNew : Bool) (c : Cursor) : Outline :=
  let isLazy := unmatched != 0 && !c.isBlank &&
    (u.frames.head?.map fun f => f.shape.isParagraph).getD false
  let u := u.noteBlank unmatched c.isBlank isNew
  if isLazy then u.addText c.text else (closeMany unmatched u).addContent c

/-- Opens a block that takes the whole line. -/
def addLeaf (u : Outline) (unmatched : Nat) (s : Shape) : Outline :=
  (u.addBlock unmatched s).noteBlank 0 false true

def addMarkup (u : Outline) (unmatched : Nat) (e : MarkupEnd) (c : Cursor) : Outline :=
  let u := u.addLeaf unmatched (.html e [c.text])
  if e.isLastLine c.content then u.closeFirst else u

/-- Makes a heading of the innermost paragraph, unless there are only definitions in it. -/
def underlineParagraph (u : Outline) (level : Nat) (c : Cursor) : Outline :=
  match u.frames with
  | ⟨.paragraph isNoHeader lines, children, isBlank⟩ :: outer =>
    let (definitions, rest) := takeDefinitions (joinLines lines)
    let definitions := definitions.reverse ++ u.definitions
    if startsBlank rest then
      addRest ⟨⟨.paragraph isNoHeader [], children, isBlank⟩ :: outer, definitions⟩ 0 false c
    else noteBlank ⟨⟨.heading level rest, children, isBlank⟩ :: outer, definitions⟩ 0 false true
  | _ => u

/-- Makes a table of the last line of the innermost paragraph if it has as many cells. The lines
before it stay a paragraph. -/
def startTable (u : Outline) (alignments : List Alignment) (c : Cursor) : Outline :=
  match u.frames with
  | ⟨.paragraph _ (last :: before), children, isBlank⟩ :: parent :: outer =>
    let header := rowCells (last.filter (· != '\n'))
    if header.length = alignments.length then
      let lead := Text.trimAscii (dropBarEscapes (joinLines before))
      let closed : List Closed := if before.isEmpty then [] else [⟨[.paragraph lead], false, []⟩]
      let parent := { parent with children := closed ++ parent.children }
      noteBlank { u with frames := Frame.ofShape (.table alignments header []) :: parent :: outer }
        0 true true
    else
      addRest
        { u with frames := ⟨.paragraph true (last :: before), children, isBlank⟩ :: parent :: outer }
        0 false c
  | _ => u

def addRow (u : Outline) (c : Cursor) : Outline :=
  let add (f : Frame) : Frame :=
    match f.shape with
    | .table alignments header rows =>
      { f with shape := .table alignments header (rowFor header.length c.content :: rows) }
    | _ => f
  (u.modifyFirst add).noteBlank 0 false true

/-- Opens the blocks that the rest of a line starts, and adds what is left of it. `count` is how
many of them there were before. -/
def addStarts (o : PreviewOptions) (u : Outline) (unmatched : Nat) (isLazy : Bool) (count : Nat)
    (c : Cursor) : Outline :=
  let container := ((u.frames.drop unmatched).head?.map Frame.shape).getD .document
  let takesAll :=
    match container with
    | .indented _ => true
    | .fenced _ _ => true
    | .html _ _ => true
    | _ => false
  match if takesAll then none else start? o container isLazy (count + 1) c with
  | none => u.addRest unmatched (count != 0) c
  | some (.leaf s) => u.addLeaf unmatched s
  | some (.markup e) => u.addMarkup unmatched e c
  | some (.underline level) => u.underlineParagraph level c
  | some (.delimiterRow alignments) => u.startTable alignments c
  | some .row => u.addRow c
  | some (.container shapes more) =>
    let u :=
      match shapes with
      | [] => u
      | s :: inner => inner.foldl (fun u s => u.addBlock 0 s) (u.addBlock unmatched s)
    if more.rest.length < c.rest.length then addStarts o u 0 false (count + 1) more
    else u
termination_by c.rest.length

def addLine (o : PreviewOptions) (u : Outline) (line : Text) : Outline :=
  match reach (Cursor.ofLine line) u.frames.reverse with
  | .closingFence => u.closeFirst
  | .upTo unmatched c =>
    let isLazy := (u.frames.head?.map fun f => f.shape.isParagraph).getD false
    u.addStarts o unmatched isLazy 0 c

end Outline

/-- The lines without their ends. A line ends with a line feed, a carriage return or both. -/
def documentLines : Text → List Text
  | [] => []
  | '\r' :: '\n' :: t => [] :: documentLines t
  | c :: t =>
    if c = '\n' || c = '\r' then [] :: documentLines t
    else
      match documentLines t with
      | [] => [[c]]
      | line :: lines => (c :: line) :: lines

/-- No document holds the character zero; the replacement character stands for it. -/
def replaceZero (c : Char) : Char := if c = '\x00' then replacementChar else c

/-- The text without the mark of the byte order at its start. -/
def dropByteOrderMark : Text → Text
  | '\ufeff' :: t => t
  | t => t

def readDocument (o : PreviewOptions) (t : Text) : Document :=
  let lines := documentLines (dropByteOrderMark (t.map replaceZero))
  (lines.foldl (fun u line => u.addLine o line) Outline.empty).finish

end MarkdownEditor.Preview
