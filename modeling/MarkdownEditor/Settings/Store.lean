import MarkdownEditor.Failure
import MarkdownEditor.Files.Shell
import MarkdownEditor.Settings.Printer
import MarkdownEditor.Settings.Reader

/-!
# Keeping settings in a file

Settings live in one file, by default in the user's configuration directory. To
save them, the new content goes to a backup file next to the target first, which
is then moved over the target: until the last step the target is untouched.
-/

namespace MarkdownEditor

set_option autoImplicit false

/-- The environment variables that say where a user's files are. -/
structure Environment where
  home : Option Text
  configHome : Option Text
deriving DecidableEq, Repr

namespace Store

variable {m : Type → Type} [Monad m]

/-- The directory for configurations. A relative one in the environment does not count. -/
def configHome? (env : Environment) : Option Text :=
  match env.configHome.filter Path.isAbsolute with
  | some path => some path
  | none => env.home.map fun home => Path.join home ".config".toList

def directory (env : Environment) : Except Failure Text :=
  match configHome? env with
  | some base => .ok (Path.join base "inkpad".toList)
  | none => .error .configDirNotFound

def file (env : Environment) : Except Failure Text :=
  (directory env).map fun d => Path.join d "config.json".toList

def backup (path : Text) : Text := Path.withExtension path "bak".toList

def ensureParent (sh : Shell m) (path : Text) : m (Except Failure Unit) := do
  match (Path.parent? path).filter (!·.isEmpty) with
  | none => return .ok ()
  | some parent =>
    if ← sh.exists? parent then return .ok ()
    else
      match ← sh.makeDirectories (Path.ancestors parent) with
      | .ok _ => return .ok ()
      | .error e => return .error (.configSave parent e.message)

/-- Reads the settings from a file. A missing or blank file has the defaults. -/
def loadFrom (sh : Shell m) (path : Text) : m (Except Failure Settings) := do
  if ← sh.exists? path then
    match ← sh.readText path with
    | .error e => return .error (.configLoad path e.message)
    | .ok t =>
      if t.trim.isEmpty then return .ok .default
      else
        match Settings.ofJsonSanitized t with
        | .error fault =>
          let problem := fault.describe t
          sh.warn ("Config file at ".toList ++ path ++ " contains invalid JSON: ".toList ++ problem)
          return .error
            (.configParse ("Failed to parse config file: ".toList ++ problem) (some problem))
        | .ok s =>
          sh.info ("Configuration loaded successfully from ".toList ++ path)
          return .ok s
  else return .ok .default

/-- Reads the user's settings; the defaults make up for any failure. -/
def load (sh : Shell m) (env : Environment) : m Settings := do
  let result ← match file env with
    | .ok path => loadFrom sh path
    | .error e => pure (.error e)
  let (settings, warnings) := orDefault result .default "Failed to load configuration".toList
  warnings.forM sh.warn
  return settings

def saveTo (sh : Shell m) (s : Settings) (path : Text) : m (Except Failure Unit) := do
  match ← ensureParent sh path with
  | .error e => return .error e
  | .ok _ =>
    match ← sh.write (backup path) (Text.encode s.toJson.pretty) with
    | .error e => return .error (.configSave (backup path) e.message)
    | .ok _ =>
      match ← sh.rename (backup path) path with
      | .error e => return .error (.configSave path e.message)
      | .ok _ =>
        sh.info ("Configuration saved successfully to ".toList ++ path)
        return .ok ()

def save (sh : Shell m) (env : Environment) (s : Settings) : m (Except Failure Unit) :=
  match file env with
  | .ok path => saveTo sh s path
  | .error e => return .error e

def alreadyExists (path : Text) : Failure :=
  .invalidArgument "config".toList
    ("'".toList ++ path ++ "' already exists (use --force to replace it)".toList)

/-- Writes the default settings to the file, or to the user's own if none is given.
Without `force` an existing file is kept. -/
def init (sh : Shell m) (env : Environment) (path : Option Text) (force : Bool) :
    m (Except Failure Text) := do
  match path.elim (file env) .ok with
  | .error e => return .error e
  | .ok path =>
    let found ← sh.exists? path
    if found && !force then return .error (alreadyExists path)
    else
      match ← saveTo sh .default path with
      | .error e => return .error e
      | .ok _ => return .ok path

end Store

end MarkdownEditor
