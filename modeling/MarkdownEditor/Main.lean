import MarkdownEditor.CommandLine.Run

/-!
# The program

The shell of the operating system, and the entry point.
-/

namespace MarkdownEditor.Terminal

set_option autoImplicit false

def osError : IO.Error → OsError
  | .noFileOrDirectory _ _ _ => .notFound
  | .alreadyExists _ _ _ => .exists
  | .resourceBusy _ _ => .busy
  | .inappropriateType _ code details =>
    if code = 20 then .notDirectory
    else if code = 21 then .isDirectory
    else .other details.toList
  | .invalidArgument _ 36 _ => .nameTooLong
  | e => .other (toString e).toList

def attempt {α : Type} (action : IO α) : IO (Except OsError α) := do
  try
    return .ok (← action)
  catch e =>
    return .error (osError e)

/-- The empty path names nothing, and no path holds the character zero. -/
def checked (path : Text) : IO String :=
  if path.contains '\x00' then throw (.userError (String.ofList OsError.nulInName.message))
  else if path.isEmpty then throw (.noFileOrDirectory "" 2 "")
  else return String.ofList path

def stat (path : Text) : IO Entry := do
  let name ← checked path
  let data ← ((← IO.currentDir) / name).metadata
  return if data.type == .dir then .directory else .file []

def read (path : Text) : IO Bytes := do
  return (← IO.FS.readBinFile (← checked path)).toList

def write (path : Text) (content : Bytes) : IO Unit := do
  IO.FS.writeBinFile (← checked path) ⟨content.toArray⟩

def display (t : Text) : IO Unit := do
  let out ← IO.getStdout
  out.putStr (String.ofList t)
  out.flush

def shell : Shell IO where
  stat path := attempt (stat path)
  read path := attempt (read path)
  write path content := attempt (write path content)
  rename source target := attempt do IO.FS.rename (← checked source) (← checked target)
  makeDirectory path := attempt do IO.FS.createDir (← checked path)
  input := attempt do return (← (← IO.getStdin).readBinToEnd).toList
  output := display
  notify n := n.lines.forM fun line => IO.eprintln (String.ofList line)

def environment : IO Environment := do
  let home ← IO.getEnv "HOME"
  let configHome ← IO.getEnv "XDG_CONFIG_HOME"
  return ⟨home.map String.toList, configHome.map String.toList⟩

end MarkdownEditor.Terminal

open MarkdownEditor in
def main (args : List String) : IO UInt32 := do
  let env ← Terminal.environment
  let code ← CommandLine.start Terminal.shell env (args.map String.toList)
  return UInt32.ofNat code
