import MarkdownEditor.Preview.Cursor
import MarkdownEditor.Preview.Document
import MarkdownEditor.Preview.Tag

/-!
# Starts of blocks

What a line can be the start of. The line is seen without its indentation.
-/

namespace MarkdownEditor.Preview

set_option autoImplicit false

def codeIndent : Nat := 4

def dropSpacesAtEnd (t : Text) : Text := (t.reverse.dropWhile Text.isSpaceOrTab).reverse

/-- Three or more equal marks and nothing else but spaces. -/
def isRule (t : Text) : Bool :=
  match t.filter fun c => !Text.isSpaceOrTab c with
  | c :: rest => (c == '*' || c == '-' || c == '_') && 2 ≤ rest.length && rest.all (· == c)
  | [] => false

/-- The text without number signs at its end that stand apart from it. -/
def dropClosingSigns (t : Text) : Text :=
  let t := Text.dropAsciiSpaceAtEnd t
  let rest := t.reverse.dropWhile (· == '#')
  if rest.isEmpty then []
  else if rest.length < t.length && (rest.head?.map Text.isSpaceOrTab).getD false then
    Text.dropAsciiSpaceAtEnd rest.reverse
  else t

structure Heading where
  level : Nat
  content : Text

def heading? (t : Text) : Option Heading :=
  let level := (t.takeWhile (· == '#')).length
  let rest := t.drop level
  if 1 ≤ level && level ≤ 6 && (rest.head?.map Text.isSpaceOrTab).getD true then
    some ⟨level, dropClosingSigns (rest.dropWhile Text.isSpaceOrTab)⟩
  else none

/-- The level of the heading that the line makes of the paragraph before it. -/
def underline? (t : Text) : Option Nat :=
  match dropSpacesAtEnd t with
  | c :: rest =>
    if !rest.all (· == c) then none
    else if c = '=' then some 1
    else if c = '-' then some 2
    else none
  | [] => none

/-- The mark of a block of code, which is written `size` times or more at its end. -/
structure Fence where
  mark : Char
  size : Nat
  /-- How far the fence is indented. Its code is indented as far. -/
  indent : Nat
deriving DecidableEq, Repr

def fenceSize (mark : Char) (t : Text) : Nat := (t.takeWhile (· == mark)).length

/-- The mark of a fence, its size, and the text after it. -/
def fenceStart? (t : Text) : Option (Char × Nat × Text) :=
  match t with
  | [] => none
  | mark :: _ =>
    let size := fenceSize mark t
    let info := t.drop size
    if (mark = '~' || (mark = '\x60' && !info.contains '\x60')) && 3 ≤ size then
      some (mark, size, info)
    else none

def Fence.isClosedBy (f : Fence) (t : Text) : Bool :=
  let size := fenceSize f.mark t
  f.size ≤ size && (t.drop size).all Text.isSpaceOrTab

/-- Where a block of raw markup ends. -/
inductive MarkupEnd where
  /-- With the line that holds one of these. -/
  | anyOf (marks : List Text)
  | blankLine
deriving DecidableEq, Repr

def rawElements : List Text :=
  ["script".toList, "pre".toList, "style".toList, "textarea".toList]

def blockElements : List Text :=
  (["address", "article", "aside", "base", "basefont", "blockquote", "body", "caption", "center",
    "col", "colgroup", "dd", "details", "dialog", "dir", "div", "dl", "dt", "fieldset",
    "figcaption", "figure", "footer", "form", "frame", "frameset", "h1", "h2", "h3", "h4", "h5",
    "h6", "head", "header", "hr", "html", "iframe", "legend", "li", "link", "main", "menu",
    "menuitem", "nav", "noframes", "ol", "optgroup", "option", "p", "param", "section", "source",
    "summary", "table", "tbody", "td", "tfoot", "th", "thead", "title", "tr", "track",
    "ul"] : List String).map String.toList

/-- The lower-case name at the start of a tag, after its opening bracket and slash. -/
def elementName (t : Text) : Text := Text.asciiLowercase (t.takeWhile Char.isAlphanum)

def contains (mark : Text) : Text → Bool
  | [] => mark.isEmpty
  | c :: t => mark.isPrefixOf (c :: t) || contains mark t

/-- Whether the name of an element can end before this text. -/
def endsName (t : Text) : Bool :=
  (t.head?.map fun c => c == '>' || Text.isAsciiSpace c).getD true

def startsRawElement (t : Text) : Bool :=
  let name := elementName t
  rawElements.contains name && endsName (t.drop name.length)

def startsBlockElement (t : Text) : Bool :=
  let t := if t.head? = some '/' then t.drop 1 else t
  let name := elementName t
  let rest := t.drop name.length
  blockElements.contains name && (endsName rest || "/>".toList.isPrefixOf rest)

/-- The end of the block of raw markup that starts here. It can follow a line of a paragraph. -/
def markupEnd? (t : Text) : Option MarkupEnd :=
  match t with
  | '<' :: t =>
    if startsRawElement t then some (.anyOf (rawElements.map fun n => ['<', '/'] ++ n ++ ['>']))
    else if "!--".toList.isPrefixOf t then some (.anyOf ["-->".toList])
    else if t.head? = some '?' then some (.anyOf ["?>".toList])
    else if t.head? = some '!' && ((t.drop 1).head?.map Char.isUpper).getD false then
      some (.anyOf [['>']])
    else if "![cdata[".toList.isPrefixOf (Text.asciiLowercase t) then
      some (.anyOf ["]]>".toList])
    else if startsBlockElement t then some .blankLine
    else none
  | _ => none

def isTagSpace (c : Char) : Bool := Text.isSpaceOrTab c || c == '\x0c'

/-- Whether the line holds one tag and nothing else. -/
def isLoneTag (t : Text) : Bool :=
  match t with
  | '<' :: t => ((afterTag? t).map fun rest => rest.all isTagSpace).getD false
  | _ => false

def MarkupEnd.isLastLine (e : MarkupEnd) (t : Text) : Bool :=
  match e with
  | .anyOf marks => marks.any fun m => contains m (Text.asciiLowercase t)
  | .blankLine => false

structure Marker where
  kind : ListKind
  size : Nat
deriving DecidableEq, Repr

def maxMarkerDigits : Nat := 9

/-- The marker that starts here. White space has to follow it. -/
def marker? (t : Text) : Option Marker :=
  let isApart (rest : Text) : Bool := (rest.head?.map Text.isAsciiSpace).getD true
  match t with
  | [] => none
  | c :: rest =>
    if c = '-' || c = '+' || c = '*' then
      if isApart rest then some ⟨.bullet c, 1⟩ else none
    else
      let digits := t.takeWhile Text.isDigit
      match t.drop digits.length with
      | mark :: rest =>
        if !digits.isEmpty && digits.length ≤ maxMarkerDigits && (mark = '.' || mark = ')') &&
            isApart rest then
          some ⟨.numbered (Text.ofDigits digits) mark, digits.length + 1⟩
        else none
      | [] => none

/-- Whether the marker can start a list directly after a line of a paragraph. The text after it
is given. -/
def Marker.interrupts (m : Marker) (rest : Text) : Bool :=
  !rest.all Text.isSpaceOrTab &&
    match m.kind with
    | .bullet _ => true
    | .numbered first _ => first == 1

/-- How many columns of white space can stand between a marker and its content. -/
def maxMarkerGap : Nat := 4

/-- The width of an item's indentation and the place of its content, from the place of its
marker. Content that is indented further than code is starts one column after the marker. -/
def Marker.content (m : Marker) (c : Cursor) : Nat × Cursor :=
  let afterMarker := c.skipIndent.skipChars m.size
  let content := afterMarker.skipBlankColumns (maxMarkerGap + 2)
  let gap := content.column - afterMarker.column
  if 1 ≤ gap && gap ≤ maxMarkerGap && !content.rest.isEmpty then
    (c.indent + m.size + gap, content)
  else (c.indent + m.size + 1, afterMarker.skipBlankColumn)

end MarkdownEditor.Preview
