import MarkdownEditor.Files.Path
import MarkdownEditor.Text.Ascii
import MarkdownEditor.Text.Utf8

/-!
# File trees

A file tree maps locations, lists of names from the root on, to files and
directories. There are no links. Paths are followed name by name, and each
operation either does all of what it says or leaves the tree as it was.
-/

namespace MarkdownEditor

set_option autoImplicit false

inductive OsError where
  | notFound
  | busy
  | exists
  | notDirectory
  | isDirectory
  | nameTooLong
  | nulInName
  | invalidUtf8
  | other (message : Text)
deriving DecidableEq, Repr

namespace OsError

def numbered (message : String) (number : Nat) : Text :=
  message.toList ++ " (os error ".toList ++ Text.decimal number ++ [')']

def message : OsError → Text
  | notFound => numbered "No such file or directory" 2
  | busy => numbered "Device or resource busy" 16
  | .exists => numbered "File exists" 17
  | notDirectory => numbered "Not a directory" 20
  | isDirectory => numbered "Is a directory" 21
  | nameTooLong => numbered "File name too long" 36
  | nulInName => "file name contained an unexpected NUL byte".toList
  | invalidUtf8 => "stream did not contain valid UTF-8".toList
  | other message => message

end OsError

inductive Entry where
  | directory
  | file (content : Bytes)
deriving DecidableEq, Repr

abbrev Location := List Text

structure FileTree where
  entries : List (Location × Entry)
deriving DecidableEq, Repr

namespace FileTree

def empty : FileTree := ⟨[]⟩

/-- What is at the location. The root is always a directory. -/
def entry? (tree : FileTree) (location : Location) : Option Entry :=
  if location.isEmpty then some .directory
  else (tree.entries.find? fun e => e.1 == location).map Prod.snd

/-- The tree without what is at the location. -/
def erase (tree : FileTree) (location : Location) : FileTree :=
  ⟨tree.entries.filter fun e => e.1 != location⟩

def set (tree : FileTree) (location : Location) (entry : Entry) : FileTree :=
  ⟨(location, entry) :: (tree.erase location).entries⟩

def isDots (name : Text) : Bool := name == ['.'] || name == ['.', '.']

/-- How many bytes a name and a whole path may have. -/
def maxNameSize : Nat := 255

def maxPathSize : Nat := 4095

/-- Goes from a directory to one of its names, which may not exist. -/
def follow (tree : FileTree) (location : Location) (name : Text) : Except OsError Location :=
  match tree.entry? location with
  | none => .error .notFound
  | some (.file _) => .error .notDirectory
  | some .directory =>
    if name = ['.'] then .ok location
    else if name = ['.', '.'] then .ok location.dropLast
    else if maxNameSize < name.byteSize then .error .nameTooLong
    else .ok (location ++ [name])

def start (current : Location) (path : Text) : Location :=
  if Path.isAbsolute path then [] else current

def resolve (tree : FileTree) (current : Location) (path : Text) : Except OsError Location :=
  if path.contains '\x00' then .error .nulInName
  else if path.isEmpty then .error .notFound
  else if maxPathSize < path.byteSize then .error .nameTooLong
  else (Path.names path).foldlM tree.follow (start current path)

/-- The location of the last name of the path, where that name is one that can be
created; `dots` is the error for a path that ends in a directory as such. -/
def resolveNew (tree : FileTree) (current : Location) (path : Text) (dots : OsError) :
    Except OsError Location := do
  let location ← tree.resolve current path
  match (Path.names path).getLast? with
  | none => .error dots
  | some name => if isDots name then .error dots else .ok location

def stat (tree : FileTree) (current : Location) (path : Text) : Except OsError Entry := do
  let location ← tree.resolve current path
  match tree.entry? location with
  | none => .error .notFound
  | some .directory => .ok .directory
  | some (.file content) =>
    if Path.endsInSlash path then .error .notDirectory else .ok (.file content)

def read (tree : FileTree) (current : Location) (path : Text) : Except OsError Bytes := do
  match ← tree.stat current path with
  | .directory => .error .isDirectory
  | .file content => .ok content

/-- Creates the file or replaces its content. -/
def write (tree : FileTree) (current : Location) (path : Text) (content : Bytes) :
    Except OsError FileTree := do
  let location ← tree.resolveNew current path .isDirectory
  if Path.endsInSlash path || tree.entry? location = some .directory then .error .isDirectory
  else .ok (tree.set location (.file content))

def makeDirectory (tree : FileTree) (current : Location) (path : Text) :
    Except OsError FileTree := do
  let location ← tree.resolveNew current path .exists
  if (tree.entry? location).isSome then .error .exists else .ok (tree.set location .directory)

/-- Moves a file over another one or to a free place. -/
def rename (tree : FileTree) (current : Location) (source target : Text) :
    Except OsError FileTree := do
  let sourceLocation ← tree.resolveNew current source .busy
  let targetLocation ← tree.resolveNew current target .busy
  match tree.entry? sourceLocation with
  | none => .error .notFound
  | some .directory => .error .isDirectory
  | some (.file content) =>
    if Path.endsInSlash source || Path.endsInSlash target then .error .notDirectory
    else if tree.entry? targetLocation = some .directory then .error .isDirectory
    else .ok ((tree.erase sourceLocation).set targetLocation (.file content))

end FileTree

end MarkdownEditor
