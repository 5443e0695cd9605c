import MarkdownEditor.Text.Basic

/-!
# Paths

Paths as they are written, with a slash between the names. Doubled slashes, a
slash at the end, and a dot in the middle or at the end name nothing.
-/

namespace MarkdownEditor.Path

set_option autoImplicit false

def isAbsolute (path : Text) : Bool := path.head? == some '/'

def endsInSlash (path : Text) : Bool := path.getLast? == some '/'

/-- The names between the slashes, dots included. -/
def names : Text → List Text
  | [] => []
  | '/' :: rest => names rest
  | c :: rest =>
    match rest, names rest with
    | [], _ => [[c]]
    | '/' :: _, ns => [c] :: ns
    | _, n :: ns => (c :: n) :: ns
    | _, [] => [[c]]

/-- The path `rest` seen from `base`. -/
def join (base rest : Text) : Text :=
  if isAbsolute rest then rest
  else if base.isEmpty || endsInSlash base then base ++ rest
  else base ++ ['/'] ++ rest

/-- A path written backwards, without what names nothing at its end. -/
def dropTrailing : Text → Text
  | '/' :: rest => dropTrailing rest
  | '.' :: '/' :: rest => dropTrailing rest
  | rest => rest

def notSlash (c : Char) : Bool := c != '/'

/-- The path without its last name, or nothing if it has no name. -/
def parent? (path : Text) : Option Text :=
  let backwards := dropTrailing path.reverse
  if backwards.isEmpty then none
  else
    let outer := dropTrailing (backwards.dropWhile notSlash)
    if outer.isEmpty && isAbsolute path then some ['/'] else some outer.reverse

/-- The path and all its parents, the innermost first, without the empty path. -/
def ancestorsWithin : Nat → Text → List Text
  | 0, _ => []
  | steps + 1, path =>
    if path.isEmpty then []
    else path :: ((parent? path).map (ancestorsWithin steps)).getD []

def ancestors (path : Text) : List Text := ancestorsWithin (path.length + 1) path

/-- The last name without what follows its last dot. A dot at the start of the
name does not count. -/
def stem (name : Text) : Text :=
  let beforeDot := (name.reverse.dropWhile (· != '.')).drop 1
  if beforeDot.isEmpty then name else beforeDot.reverse

/-- The path with the extension of its last name replaced. A path that has no name,
or whose name would be two dots without its extension, gets none. -/
def withExtension (path extension : Text) : Text :=
  let backwards := dropTrailing path.reverse
  let name := (backwards.takeWhile notSlash).reverse
  let directory := (backwards.dropWhile notSlash).reverse
  if name.isEmpty || name = ['.'] || name = ['.', '.'] then path
  else if stem name = ['.'] && backwards.length = path.length then directory ++ ['.', '.']
  else directory ++ stem name ++ ['.'] ++ extension

end MarkdownEditor.Path
