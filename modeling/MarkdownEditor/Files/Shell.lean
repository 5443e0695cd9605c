import MarkdownEditor.Files.Tree
import MarkdownEditor.Text.ControlSequence

/-!
# Shells

What the program asks of its surroundings: files, the input, the output, and a
place for notices. A shell gives these in some monad. `World` is the shell of a
file tree in memory, with all that was written kept for inspection.
-/

namespace MarkdownEditor

set_option autoImplicit false

inductive Level where
  | error
  | warn
  | info
deriving DecidableEq, Repr

def Level.name : Level → String
  | .error => "ERROR"
  | .warn => "WARN"
  | .info => "INFO"

/-- A line for people: a notice of some level, or a report as it stands. -/
inductive Notice where
  | log (level : Level) (message : Text)
  | report (message : Text)
deriving DecidableEq, Repr

/-- What goes before every further line of a log message. -/
def indentedBreak : Text := "\n    ".toList

/-- The lines in which a notice is shown. Further lines of a log message are indented,
and nothing in one can act on a terminal. -/
def Notice.lines : Notice → List Text
  | .log level message =>
    let record := level.name.toList ++ [' '] ++ message
    (Text.dropSequences (Text.joinWith indentedBreak (record.splitOn '\n'))).splitOn '\n'
  | .report message => message.splitOn '\n'

structure Shell (m : Type → Type) where
  stat : Text → m (Except OsError Entry)
  read : Text → m (Except OsError Bytes)
  write : Text → Bytes → m (Except OsError Unit)
  rename : Text → Text → m (Except OsError Unit)
  makeDirectory : Text → m (Except OsError Unit)
  input : m (Except OsError Bytes)
  output : Text → m Unit
  notify : Notice → m Unit

namespace Shell

variable {m : Type → Type} [Monad m]

def exists? (sh : Shell m) (path : Text) : m Bool := do
  match ← sh.stat path with
  | .ok _ => return true
  | .error _ => return false

def isDirectory (sh : Shell m) (path : Text) : m Bool := do
  match ← sh.stat path with
  | .ok .directory => return true
  | _ => return false

def info (sh : Shell m) (message : Text) : m Unit := sh.notify (.log .info message)

def warn (sh : Shell m) (message : Text) : m Unit := sh.notify (.log .warn message)

/-- The text that the bytes spell. -/
def textOf (bytes : Except OsError Bytes) : Except OsError Text :=
  match bytes with
  | .error e => .error e
  | .ok bytes =>
    match Text.decode? bytes with
    | some t => .ok t
    | none => .error .invalidUtf8

def readText (sh : Shell m) (path : Text) : m (Except OsError Text) :=
  return textOf (← sh.read path)

def inputText (sh : Shell m) : m (Except OsError Text) := return textOf (← sh.input)

/-- Makes the first of the directories, and before it those it lies in where they
are missing. -/
def makeDirectories (sh : Shell m) : List Text → m (Except OsError Unit)
  | [] => return .ok ()
  | directory :: outer => do
    match ← sh.makeDirectory directory with
    | .ok _ => return .ok ()
    | .error .notFound =>
      match ← makeDirectories sh outer with
      | .error e => return .error e
      | .ok _ => settle (← sh.makeDirectory directory) directory
    | .error e => settle (.error e) directory
where
  /-- A directory that can not be made because it is there is no error. -/
  settle (result : Except OsError Unit) (directory : Text) : m (Except OsError Unit) := do
    match result with
    | .ok _ => return .ok ()
    | .error e => if ← sh.isDirectory directory then return .ok () else return .error e

end Shell

/-- A file tree, the directory the program runs in, what it can read from its
input, and what it has written, the latest first. -/
structure World where
  tree : FileTree
  current : Location
  inputBytes : Bytes
  outputs : List Text
  notices : List Notice

namespace World

/-- An operation that changes the tree or fails. -/
def change (f : FileTree → Location → Except OsError FileTree) :
    StateM World (Except OsError Unit) := fun w =>
  match f w.tree w.current with
  | .ok tree => (.ok (), { w with tree := tree })
  | .error e => (.error e, w)

def shell : Shell (StateM World) where
  stat path w := (w.tree.stat w.current path, w)
  read path w := (w.tree.read w.current path, w)
  write path content := change fun tree current => tree.write current path content
  rename source target := change fun tree current => tree.rename current source target
  makeDirectory path := change fun tree current => tree.makeDirectory current path
  input w := (.ok w.inputBytes, w)
  output t w := ((), { w with outputs := t :: w.outputs })
  notify n w := ((), { w with notices := n :: w.notices })

end World

end MarkdownEditor
