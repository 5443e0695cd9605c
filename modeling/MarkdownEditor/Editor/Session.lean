import MarkdownEditor.Editor.Buffer
import MarkdownEditor.Editor.Keymap
import MarkdownEditor.Formatting

/-!
# Editor sessions

A session turns key events into edits of a host. It never performs undo: the
host does, and calls `afterHostEdit` once its text has settled.
-/

namespace MarkdownEditor

set_option autoImplicit false

/-- What became of a key event. -/
inductive KeyDisposition where
  /-- A command was applied, and the host should not handle the key. -/
  | applied (command : Command)
  /-- The key means undo, which is the host's own. -/
  | passThrough
  | ignored
deriving DecidableEq, Repr

namespace Session

variable {σ : Type} [TextHost σ]

/-- Applies the command to the host's text and selection. The answer says
whether the text was edited. -/
def run (c : Command) (host : σ) : Bool × σ :=
  let outcome := c.apply (TextHost.text host) (TextHost.selection host)
  match outcome.edit with
  | some e =>
    (true, TextHost.setSelection outcome.selection (TextHost.replaceRange e.range e.insert host))
  | none => (false, TextHost.setSelection outcome.selection host)

def handleKey (keymap : Keymap) (event : KeyEvent) (host : σ) : KeyDisposition × σ :=
  match keymap.resolve event with
  | some .undo => (.passThrough, host)
  | some c => (.applied c, (run c host).2)
  | none => (.ignored, host)

/-- Settles the selection after the host changed its text on its own. -/
def afterHostEdit (host : σ) : σ :=
  let s := TextHost.selection host
  let clamped := s.clamp (TextHost.text host)
  if clamped = s then host else TextHost.setSelection clamped host

end Session

end MarkdownEditor
