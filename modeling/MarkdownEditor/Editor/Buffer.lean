import MarkdownEditor.Selection

/-!
# Text hosts and buffers

A host holds the text and the selection that a session works on. A session
changes the text through `replaceRange` only, the primitive the host uses for
typing, so the host's own undo history records every edit. The selection may be
any pair of offsets, also a stale one.

A buffer is a host in memory with a bounded undo history. The history holds
the texts before and after the current one, the nearest first. Every edit
records the current text, drops the oldest one when the history is over its
limit, and forgets what was undone. The selection is not part of the history.
-/

namespace MarkdownEditor

set_option autoImplicit false

class TextHost (σ : Type) where
  text : σ → Text
  selection : σ → Selection
  replaceRange : Selection → Text → σ → σ
  setSelection : Selection → σ → σ

/-- What a session asked its host to do. -/
inductive HostCall where
  | replace (range : Selection) (insert : Text)
  | select (selection : Selection)
deriving DecidableEq, Repr

/-- A host together with the calls made on it, the latest one first. -/
structure Recorded (σ : Type) where
  host : σ
  calls : List HostCall

instance {σ : Type} [TextHost σ] : TextHost (Recorded σ) where
  text r := TextHost.text r.host
  selection r := TextHost.selection r.host
  replaceRange range insert r :=
    ⟨TextHost.replaceRange range insert r.host, .replace range insert :: r.calls⟩
  setSelection s r := ⟨TextHost.setSelection s r.host, .select s :: r.calls⟩

structure TextBuffer where
  content : Text
  selection : Selection
  undoStack : List Text
  redoStack : List Text
  limit : Nat
deriving DecidableEq, Repr

namespace TextBuffer

def defaultLimit : Nat := 100

/-- A buffer with the caret at the start and no history. -/
def ofText (t : Text) : TextBuffer := ⟨t, .caret 0, [], [], defaultLimit⟩

def withUndoLimit (b : TextBuffer) (limit : Nat) : TextBuffer := { b with limit := max limit 1 }

/-- The undo history after `t` was recorded. -/
def record (limit : Nat) (t : Text) (history : List Text) : List Text :=
  if (t :: history).length > limit then (t :: history).dropLast else t :: history

/-- Makes `t` the content, as one step that can be undone. -/
def step (b : TextBuffer) (t : Text) : TextBuffer :=
  { b with content := t, undoStack := record b.limit b.content b.undoStack, redoStack := [] }

/-- Replaces the whole content; the same content again is no edit. -/
def setContent (b : TextBuffer) (t : Text) : TextBuffer :=
  if t = b.content then b else b.step t

/-- Replaces the clamped range; an empty insert over an empty range is no edit. -/
def replaceRange (b : TextBuffer) (range : Selection) (insert : Text) : TextBuffer :=
  let range := range.clamp b.content
  if range.isCaret && insert.isEmpty then b else b.step (Edit.apply ⟨range, insert⟩ b.content)

def setSelection (b : TextBuffer) (s : Selection) : TextBuffer := { b with selection := s }

/-- Takes back the last edit, if one is recorded. -/
def undo (b : TextBuffer) : Bool × TextBuffer :=
  match b.undoStack with
  | [] => (false, b)
  | t :: rest =>
    (true, { b with content := t, undoStack := rest, redoStack := b.content :: b.redoStack })

/-- Makes the edit undone last again. -/
def redo (b : TextBuffer) : Bool × TextBuffer :=
  match b.redoStack with
  | [] => (false, b)
  | t :: rest =>
    (true, { b with content := t, undoStack := b.content :: b.undoStack, redoStack := rest })

def undoCount (b : TextBuffer) : Nat := b.undoStack.length

def canUndo (b : TextBuffer) : Bool := !b.undoStack.isEmpty

def canRedo (b : TextBuffer) : Bool := !b.redoStack.isEmpty

instance : TextHost TextBuffer where
  text := content
  selection := selection
  replaceRange range insert b := b.replaceRange range insert
  setSelection s b := b.setSelection s

end TextBuffer

end MarkdownEditor
