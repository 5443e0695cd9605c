import MarkdownEditor.Text.Lines

/-!
# Fenced code blocks

A line of three backticks and a tag opens a block, the next line of exactly
three backticks closes it. A carriage return at the end of such a line does not
count. An opening line that no line closes opens nothing, and what follows it
is ordinary markdown.

`pieces` cuts a text into its markdown and its blocks. The pieces put together
again are the text. `regions` gives the same pieces as ranges of bytes.
-/

namespace MarkdownEditor

set_option autoImplicit false

namespace Fence

def mark : Text := ['\x60', '\x60', '\x60']

/-- Tags consist of ASCII letters, digits and underscores. -/
def isTagChar (c : Char) : Bool := c.isAlphanum || c == '_'

/-- The tag, if the line opens a block. -/
def openerTag? (line : Text) : Option Text :=
  let content := (Text.lineContent line).dropReturn
  if mark.isPrefixOf content && (content.drop mark.length).all isTagChar then
    some (content.drop mark.length)
  else none

def isCloser (line : Text) : Bool := (Text.lineContent line).dropReturn == mark

end Fence

/-- A fenced block: its opening line with the line feed, the lines between the
fences, and its closing line without the line feed. -/
structure FencedBlock where
  tag : Text
  opener : Text
  body : Text
  closer : Text
deriving DecidableEq, Repr

def FencedBlock.text (b : FencedBlock) : Text := b.opener ++ b.body ++ b.closer

inductive Piece where
  | markdown (text : Text)
  | fenced (block : FencedBlock)
deriving DecidableEq, Repr

namespace Piece

def text : Piece → Text
  | .markdown t => t
  | .fenced b => b.text

/-- Puts markdown in front of the pieces, joined to the markdown they start with. -/
def consMarkdown : Text → List Piece → List Piece
  | t, .markdown u :: rest => .markdown (t ++ u) :: rest
  | [], ps => ps
  | t, ps => .markdown t :: ps

@[simp] theorem flatMap_text_consMarkdown (t : Text) (ps : List Piece) :
    (consMarkdown t ps).flatMap text = t ++ ps.flatMap text := by
  unfold consMarkdown
  split <;> simp [text]

end Piece

namespace Fence

/-- The lines before the first closing line, that line, and the lines after it. -/
def splitAtCloser? : List Text → Option (List Text × Text × List Text)
  | [] => none
  | line :: rest =>
    if isCloser line then some ([], line, rest)
    else (splitAtCloser? rest).map fun (body, closer, after) => (line :: body, closer, after)

theorem eq_of_splitAtCloser? {ls body after : List Text} {closer : Text}
    (h : splitAtCloser? ls = some (body, closer, after)) : ls = body ++ closer :: after := by
  induction ls generalizing body with
  | nil => simp [splitAtCloser?] at h
  | cons line rest ih =>
    simp only [splitAtCloser?] at h
    split at h
    · simp_all
    · simp only [Option.map_eq_some_iff, Prod.mk.injEq, Prod.exists] at h
      obtain ⟨body', closer', after', h', rfl, rfl, rfl⟩ := h
      simp [← ih h']

def piecesOfLines : List Text → List Piece
  | [] => []
  | line :: rest =>
    match openerTag? line with
    | none => Piece.consMarkdown line (piecesOfLines rest)
    | some tag =>
      match _hSplit : splitAtCloser? rest with
      | none => Piece.consMarkdown (line ++ rest.flatten) []
      | some (body, closer, after) =>
        .fenced ⟨tag, line, body.flatten, Text.lineContent closer⟩ ::
          Piece.consMarkdown (Text.lineEnd closer) (piecesOfLines after)
termination_by ls => ls.length
decreasing_by
  · simp
  · have := congrArg List.length (eq_of_splitAtCloser? _hSplit)
    simp at this ⊢
    omega

/-- The lines of a closed block, and what comes after its closing mark. -/
theorem flatten_block (tag line closer : Text) (body after : List Text) :
    (line :: (body ++ closer :: after)).flatten =
      FencedBlock.text ⟨tag, line, body.flatten, Text.lineContent closer⟩ ++
        (Text.lineEnd closer ++ after.flatten) := by
  simp only [FencedBlock.text, List.flatten_cons, List.flatten_append, List.append_assoc]
  rw [← List.append_assoc (Text.lineContent closer), Text.lineContent_append_lineEnd]

def pieces (t : Text) : List Piece := piecesOfLines t.lines

def blocks (t : Text) : List FencedBlock :=
  (pieces t).filterMap fun
    | .markdown _ => none
    | .fenced b => some b

theorem flatMap_text_piecesOfLines (ls : List Text) :
    (piecesOfLines ls).flatMap Piece.text = ls.flatten := by
  fun_induction piecesOfLines ls with
  | case1 => rfl
  | case2 line rest _ ih => simp [ih]
  | case3 line rest tag _ h => simp
  | case4 line rest tag _ body closer after h ih =>
    rw [eq_of_splitAtCloser? h, flatten_block tag, List.flatMap_cons,
      Piece.flatMap_text_consMarkdown, ih, Piece.text]

/-- Nothing of the text is lost and nothing is added. -/
theorem flatMap_text_pieces (t : Text) : (pieces t).flatMap Piece.text = t := by
  rw [pieces, flatMap_text_piecesOfLines, Text.flatten_lines]

end Fence

/-- A range of bytes, from `start` up to but not including `stop`. -/
structure ByteRange where
  start : Nat
  stop : Nat
deriving DecidableEq, Repr

structure FencedRange where
  tag : Text
  opener : ByteRange
  body : ByteRange
  closer : ByteRange
deriving DecidableEq, Repr

def FencedRange.span (b : FencedRange) : ByteRange := ⟨b.opener.start, b.closer.stop⟩

inductive Region where
  | markdown (range : ByteRange)
  | fenced (block : FencedRange)
deriving DecidableEq, Repr

namespace Fence

/-- The piece as a region that begins at byte `start`. -/
def Piece.place (start : Nat) : Piece → Region
  | .markdown t => .markdown ⟨start, start + t.byteSize⟩
  | .fenced b =>
    let body := start + b.opener.byteSize
    let closer := body + b.body.byteSize
    .fenced ⟨b.tag, ⟨start, body⟩, ⟨body, closer⟩, ⟨closer, closer + b.closer.byteSize⟩⟩

/-- The pieces laid out one after the other from byte `start` on. -/
def placeFrom (start : Nat) : List Piece → List Region
  | [] => []
  | p :: rest => Piece.place start p :: placeFrom (start + p.text.byteSize) rest

def regions (t : Text) : List Region := placeFrom 0 (pieces t)

end Fence

end MarkdownEditor
