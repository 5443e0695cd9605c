import MarkdownEditor.Preview.Address
import MarkdownEditor.Preview.Delimiter
import MarkdownEditor.Preview.Document
import MarkdownEditor.Preview.Reference
import MarkdownEditor.Preview.Tag

/-!
# Reading inline content

A text is read from left to right into items. A closing bracket makes a link or
an image of the items since its opening bracket, if a target follows or a
definition names one. The delimiters that are left are paired at the end.
-/

namespace MarkdownEditor.Preview

set_option autoImplicit false

/-- How many characters stand before the first run of exactly `k` backticks. The other
arguments count the characters passed and those of the run that was passed last. -/
def sizeBeforeTicks (k : Nat) : Nat → Nat → Text → Option Nat
  | passed, run, [] => if run = k then some (passed - k) else none
  | passed, run, c :: t =>
    if c = '\x60' then sizeBeforeTicks k (passed + 1) (run + 1) t
    else if run = k then some (passed - k)
    else sizeBeforeTicks k (passed + 1) 0 t

/-- Code without the one space on either side that sets it off from its delimiters. -/
def trimCode (t : Text) : Text :=
  let t := t.map fun c => if c = '\n' then ' ' else c
  if t.head? = some ' ' && t.getLast? = some ' ' && t.any (· != ' ') then t.tail.dropLast else t

def maxTicks : Nat := 80

/-- Content, and how many characters of the text after its first one belong to it. -/
abbrev Piece := Inline × Nat

/-- A line ends hard after two spaces. -/
def newlinePiece (before rest : Text) : Piece :=
  let size := (rest.takeWhile Text.isSpaceOrTab).length
  match before with
  | ' ' :: ' ' :: _ => (.hardBreak, size)
  | _ => (.softBreak, size)

def backslashPiece (rest : Text) : Piece :=
  match rest with
  | [] => (.text ['\\'], 0)
  | c :: _ =>
    if c = '\n' then (.hardBreak, 1)
    else if Text.isAsciiSign c then (.text [c], 1)
    else (.text ['\\'], 0)

def codePiece (rest : Text) : Piece :=
  let more := (rest.takeWhile (· == '\x60')).length
  let inside := rest.drop more
  match if more < maxTicks then sizeBeforeTicks (more + 1) 0 0 inside else none with
  | some size => (.code (trimCode (inside.take size)), more + size + (more + 1))
  | none => (.text (List.replicate (more + 1) '\x60'), more)

def entityPiece (rest : Text) : Piece :=
  match entity? rest with
  | some (chars, size) => (.text chars, size)
  | none => (.text ['&'], 0)

def anglePiece (rest : Text) : Piece :=
  match bracketedLink? rest with
  | some (link, more) => (.link ⟨link.address, []⟩ [.text link.label], rest.length - more.length)
  | none =>
    match afterMarkup? rest with
    | some more =>
      let size := rest.length - more.length
      (.html ('<' :: rest.take size), size)
    | none => (.text ['<'], 0)

/-- Characters that may be more than text. -/
def isInlineMark (o : PreviewOptions) (c : Char) : Bool :=
  c == '\n' || c == '\x60' || c == '\\' || c == '&' || c == '<' || c == '*' || c == '_' ||
    c == '[' || c == ']' || c == '!' || (c == '~' && o.strikethrough)

/-- A text up to the next mark. No white space stands at the end of a line, nor after a hard
break. -/
def textPiece (o : PreviewOptions) (afterBreak : Bool) (c : Char) (rest : Text) : Piece :=
  let more := rest.takeWhile fun c => !isInlineMark o c
  let content := c :: more
  let content :=
    if (rest.drop more.length).head? = some '\n' then Text.dropAsciiSpaceAtEnd content else content
  (.text (if afterBreak then content.dropWhile Text.isAsciiSpace else content), more.length)

/-- The items read so far, the nearest first. -/
structure Reading where
  passed : List Item
  /-- Whether a link has ended since the last bracket that could open one. There are no links
  in links. -/
  isLinkless : Bool

/-- The innermost open bracket. -/
structure Opened where
  /-- The items after it, in reading order. -/
  inside : List Item
  bracket : Bracket
  below : List Item

def findBracket? (inside : List Item) : List Item → Option Opened
  | [] => none
  | .bracket b :: below => some ⟨inside, b, below⟩
  | item :: below => findBracket? (item :: inside) below

/-- Marks the innermost open bracket as followed by another one. -/
def noteBracket : List Item → List Item
  | [] => []
  | .bracket b :: below => .bracket { b with isFollowed := true } :: below
  | item :: below => item :: noteBracket below

/-- The target after a closing bracket, and how many characters it takes. A label in brackets
may be left out or empty; the text in the link's own brackets is the label then, unless it
holds brackets. -/
def targetAfter? (definitions : List Definition) (b : Bracket) (rest : Text) :
    Option (Target × Nat) :=
  let enclosed :=
    match rest with
    | '(' :: inside => enclosedTarget? inside
    | _ => none
  match enclosed with
  | some (target, more) => some (target, rest.length - more.length)
  | none =>
    let (label, size) :=
      match label? rest with
      | some (label, more) => (label, rest.length - more.length)
      | none => ([], 0)
    let label :=
      if label.isEmpty && !b.isFollowed then b.after.take (b.after.length - (rest.length + 1))
      else label
    (findTarget? definitions label).map fun target => (target, size)

namespace Reading

def push (s : Reading) (item : Item) : Reading := { s with passed := item :: s.passed }

/-- An opening bracket before the text `after`. -/
def openBracket (s : Reading) (isImage : Bool) (after : Text) : Reading :=
  ⟨.bracket ⟨isImage, false, after⟩ :: noteBracket s.passed, s.isLinkless && isImage⟩

def plainBracket (s : Reading) : Reading := s.push (.content (.text [']']))

/-- A closing bracket, and how many characters of `rest` belong to what it ends. -/
def closeBracket (definitions : List Definition) (s : Reading) (rest : Text) : Reading × Nat :=
  match findBracket? [] s.passed with
  | none => (s.plainBracket, 0)
  | some ⟨inside, b, below⟩ =>
    let found := if s.isLinkless && !b.isImage then none else targetAfter? definitions b rest
    match found with
    | none =>
      let passed := inside.reverse ++ .content (Item.bracket b).plain :: below
      (plainBracket { s with passed := passed }, 0)
    | some (target, size) =>
      let children := paired inside
      let node := if b.isImage then Inline.image target children else Inline.link target children
      (⟨.content node :: below, s.isLinkless || !b.isImage⟩, size)

def isAfterBreak (s : Reading) : Bool :=
  match s.passed with
  | .content .hardBreak :: _ => true
  | _ => false

/-- Reads what starts with `c`. The characters before it are given backwards. -/
def step (o : PreviewOptions) (definitions : List Definition) (s : Reading) (before : Text)
    (c : Char) (rest : Text) : Reading × Nat :=
  let piece (p : Piece) : Reading × Nat := (s.push (.content p.1), p.2)
  if c = '\n' then piece (newlinePiece before rest)
  else if c = '\x60' then piece (codePiece rest)
  else if c = '\\' then piece (backslashPiece rest)
  else if c = '&' then piece (entityPiece rest)
  else if c = '<' then piece (anglePiece rest)
  else if c = '[' then (s.openBracket false rest, 0)
  else if c = ']' then s.closeBracket definitions rest
  else if c = '!' then
    match rest with
    | '[' :: after =>
      if after.head? = some '^' then piece (.text [c], 0) else (s.openBracket true after, 1)
    | _ => piece (.text [c], 0)
  else if isInlineMark o c then
    let more := (rest.takeWhile (· == c)).length
    let run := Run.between (sideChar o.strikethrough before)
      (sideChar o.strikethrough (rest.drop more)) c (more + 1)
    (s.push (.run run), more)
  else piece (textPiece o s.isAfterBreak c rest)

end Reading

def readItems (o : PreviewOptions) (definitions : List Definition) (before : Text) (s : Reading) :
    Text → List Item
  | [] => s.passed.reverse
  | c :: rest =>
    let (s, taken) := s.step o definitions before c rest
    readItems o definitions ((rest.take taken).reverse ++ c :: before) s (rest.drop taken)
termination_by t => t.length
decreasing_by
  simp only [List.length_drop, List.length_cons]
  omega

def readInlines (o : PreviewOptions) (definitions : List Definition) (t : Text) : List Inline :=
  Inline.joinedAll
    (paired (readItems o definitions [] ⟨[], true⟩ (Text.dropAsciiSpaceAtEnd t)))

end MarkdownEditor.Preview
