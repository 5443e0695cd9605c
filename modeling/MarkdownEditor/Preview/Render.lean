import MarkdownEditor.Markup.Escape
import MarkdownEditor.Preview.BareLink
import MarkdownEditor.Preview.BlockReader
import MarkdownEditor.Preview.InlineReader
import MarkdownEditor.Text.Utf8

/-!
# Rendering the preview

A document as markup. Raw markup and dangerous addresses are left out unless the
options let them pass.
-/

namespace MarkdownEditor.Preview

set_option autoImplicit false

/-- Text content keeps its single quotes. -/
def contentEntity (c : Char) : Text := if c = '\'' then [c] else Markup.entity c

def escapeContent (t : Text) : Text := t.flatMap contentEntity

def hexDigit (n : Nat) : Char := Char.ofNat (if n < 10 then 48 + n else 55 + n)

def percentByte (b : UInt8) : Text := ['%', hexDigit (b.toNat / 16), hexDigit (b.toNat % 16)]

def addressMarks : Text := "-_.+!*(),%#@?=;:/$~".toList

/-- What is not allowed in an address is written as the bytes of its encoding. -/
def addressEntity (c : Char) : Text :=
  if c = '&' then Markup.entity '&'
  else if c = '\'' then "&#x27;".toList
  else if c.isAlphanum || addressMarks.contains c then [c]
  else (Text.encode [c]).flatMap percentByte

/-- How a document is written: what is let through, and what its links refer to. -/
structure Style where
  options : PreviewOptions
  definitions : List Definition

def addressText (s : Style) (address : Text) : Text :=
  if isDangerous address && !s.options.allowRawHtml then [] else address.flatMap addressEntity

def attributeHtml (name : String) (value : Text) : Text :=
  [' '] ++ name.toList ++ ['=', '"'] ++ value ++ ['"']

def titleText (title : Text) : Text :=
  if title.isEmpty then [] else attributeHtml "title" (escapeContent title)

def omitted : Text := "<!-- raw HTML omitted -->".toList

def lineBreak : Text := "<br />\n".toList

def element (name : String) (content : Text) : Text :=
  ['<'] ++ name.toList ++ ['>'] ++ content ++ ['<', '/'] ++ name.toList ++ ['>']

def imageHtml (s : Style) (target : Target) (description : Text) : Text :=
  "<img".toList ++ attributeHtml "src" (addressText s target.address) ++
    attributeHtml "alt" (escapeContent description) ++ titleText target.title ++ " />".toList

mutual

def inlineHtml (s : Style) : Inline → Text
  | .text content => escapeContent content
  | .code content => element "code" (escapeContent content)
  | .emphasis children => element "em" (inlinesHtml s children)
  | .strong children => element "strong" (inlinesHtml s children)
  | .deleted children => element "del" (inlinesHtml s children)
  | .link target children =>
    "<a".toList ++ attributeHtml "href" (addressText s target.address) ++ titleText target.title ++
      ['>'] ++ inlinesHtml s children ++ "</a>".toList
  | .image target children => imageHtml s target (Inline.plainTexts children)
  | .html content => if s.options.allowRawHtml then content else omitted
  | .softBreak => if s.options.hardBreaks then lineBreak else ['\n']
  | .hardBreak => lineBreak

def inlinesHtml (s : Style) : List Inline → Text
  | [] => []
  | i :: rest => inlineHtml s i ++ inlinesHtml s rest

end

/-- Content with its bare links. -/
def linkedHtml (s : Style) (l : List Inline) : Text :=
  inlinesHtml s (if s.options.autolink then linkContents l else l)

def contentHtml (s : Style) (t : Text) : Text :=
  linkedHtml s (readInlines s.options s.definitions t)

def checkbox (isChecked : Bool) : Text :=
  "<input type=\"checkbox\" ".toList ++ (if isChecked then "checked=\"\" ".toList else []) ++
    "disabled=\"\" /> ".toList

/-- Whether the task at the start of a text is done, and the text after its box. -/
def task? (t : Text) : Option (Bool × Text) :=
  match t.dropWhile Text.isAsciiSpace with
  | '[' :: c :: ']' :: rest =>
    if (c = ' ' || c = 'x' || c = 'X') && (rest.head?.map Text.isAsciiSpace).getD true then
      some (c != ' ', rest.drop 1)
    else none
  | _ => none

/-- The first paragraph of a list item: the box of a task, and the other content. -/
def itemContent (s : Style) (t : Text) : Text × Text :=
  match readInlines s.options s.definitions t with
  | .text first :: more =>
    match if s.options.tasklist then task? first else none with
    | some (isDone, rest) => (checkbox isDone, linkedHtml s (.text rest :: more))
    | none => ([], linkedHtml s (.text first :: more))
  | l => ([], linkedHtml s l)

def headingName (level : Nat) : String := "h" ++ String.ofList (Text.decimal level)

/-- The attributes of code in the language that the first word of `info` names. -/
def languageText (info : Text) : Text :=
  if info.isEmpty then []
  else
    let word := info.takeWhile fun c => !Text.isAsciiSpace c
    attributeHtml "class" ("language-".toList ++ escapeContent word) ++
      (if info = "math".toList then attributeHtml "data-math-style" "display".toList else [])

def codeHtml (info content : Text) : Text :=
  "<pre><code".toList ++ languageText info ++ ['>'] ++ escapeContent content ++
    "</code></pre>\n".toList

def alignmentText : Alignment → Text
  | .unset => []
  | .left => attributeHtml "align" "left".toList
  | .center => attributeHtml "align" "center".toList
  | .right => attributeHtml "align" "right".toList

def cellHtml (s : Style) (name : String) (alignment : Alignment) (cell : Text) : Text :=
  ['<'] ++ name.toList ++ alignmentText alignment ++ ['>'] ++ contentHtml s cell ++
    ['<', '/'] ++ name.toList ++ ['>', '\n']

def rowHtml (s : Style) (name : String) (alignments : List Alignment) (cells : List Text) : Text :=
  "<tr>\n".toList ++ (List.zipWith (cellHtml s name) alignments cells).flatten ++
    "</tr>\n".toList

def tableHtml (s : Style) (t : Table) : Text :=
  let body : Text :=
    if t.rows.isEmpty then []
    else
      "<tbody>\n".toList ++ t.rows.flatMap (rowHtml s "td" t.alignments) ++ "</tbody>\n".toList
  "<table>\n<thead>\n".toList ++ rowHtml s "th" t.alignments t.header ++ "</thead>\n".toList ++
    body ++ "</table>\n".toList

/-- The opening and the closing tag of a list. -/
def listTags : ListKind → Text × Text
  | .bullet _ => ("<ul>\n".toList, "</ul>\n".toList)
  | .numbered first _ =>
    (if first = 1 then "<ol>\n".toList
      else "<ol".toList ++ attributeHtml "start" (Text.decimal first) ++ ">\n".toList,
      "</ol>\n".toList)

/-- What goes before a block, which starts on a line of its own. `isFresh` says that nothing
stands on the line so far. -/
def freshLine (isFresh : Bool) : Text := if isFresh then [] else ['\n']

/-- Whether nothing stands on the line after a further text. -/
def isFreshAfter (isFresh : Bool) (t : Text) : Bool := (t.getLast?.map (· == '\n')).getD isFresh

/-- A paragraph of a tight list is its content alone. -/
def paragraphHtml (isTight isFresh : Bool) (content : Text) : Text :=
  if isTight then content else freshLine isFresh ++ element "p" content ++ ['\n']

mutual

def blockHtml (s : Style) (isTight isFresh : Bool) : Block → Text
  | .paragraph content => paragraphHtml isTight isFresh (contentHtml s content)
  | .heading level content =>
    freshLine isFresh ++ element (headingName level) (contentHtml s content) ++ ['\n']
  | .code info content => freshLine isFresh ++ codeHtml info content
  | .html content =>
    let content := if s.options.allowRawHtml then content else omitted
    freshLine isFresh ++ content ++ freshLine (isFreshAfter true content)
  | .rule => freshLine isFresh ++ "<hr />\n".toList
  | .table t => freshLine isFresh ++ tableHtml s t
  | .quote children =>
    let content := blocksHtml s false true children
    freshLine isFresh ++ "<blockquote>\n".toList ++ content ++
      freshLine (isFreshAfter true content) ++ "</blockquote>\n".toList
  | .items kind isLoose children =>
    let (opening, closing) := listTags kind
    freshLine isFresh ++ opening ++ itemsHtml s (!isLoose) children ++ closing

def blocksHtml (s : Style) (isTight isFresh : Bool) : List Block → Text
  | [] => []
  | b :: rest =>
    let t := blockHtml s isTight isFresh b
    t ++ blocksHtml s isTight (isFreshAfter isFresh t) rest

def itemHtml (s : Style) (isTight : Bool) : List Block → Text
  | [] => "<li></li>\n".toList
  | .paragraph content :: rest =>
    let (box, content) := itemContent s content
    let first := paragraphHtml isTight false content
    "<li>".toList ++ box ++ first ++ blocksHtml s isTight (isFreshAfter false first) rest ++
      "</li>\n".toList
  | b :: rest =>
    let first := blockHtml s isTight false b
    "<li>".toList ++ first ++ blocksHtml s isTight (isFreshAfter false first) rest ++
      "</li>\n".toList

def itemsHtml (s : Style) (isTight : Bool) : List (List Block) → Text
  | [] => []
  | item :: rest => itemHtml s isTight item ++ itemsHtml s isTight rest

end

def render (o : PreviewOptions) (t : Text) : Text :=
  let document := readDocument o t
  blocksHtml ⟨o, document.definitions⟩ false true document.blocks

end MarkdownEditor.Preview
