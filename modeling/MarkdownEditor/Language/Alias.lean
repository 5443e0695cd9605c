import MarkdownEditor.Dictionary
import MarkdownEditor.Text.Blank
import MarkdownEditor.Text.Lowercase

/-!
# Language aliases

People type short tags after a fence. The alias table maps a tag to the id a
grammar is registered under. Configured aliases come after the built-in ones
and never replace an alias that is already there.
-/

namespace MarkdownEditor

set_option autoImplicit false

abbrev AliasTable := Dictionary Text

namespace AliasTable

def builtinEntries : List (Text × Text) :=
  [("js".toList, "javascript".toList),
   ("ts".toList, "typescript".toList),
   ("py".toList, "python".toList),
   ("sh".toList, "bash".toList),
   ("shell".toList, "bash".toList),
   ("md".toList, "markdown".toList),
   ("yml".toList, "yaml".toList),
   ("rs".toList, "rust".toList)]

def builtin : AliasTable := Dictionary.ofList builtinEntries

/-- A configured alias that is ignored, because its key is already bound. -/
structure Collision where
  key : Text
deriving DecidableEq, Repr

def Collision.message (c : Collision) : Text :=
  "Ignoring configured alias '".toList ++ c.key ++
    "': it would shadow a built-in alias".toList

/-- Adds one configured alias. Both sides are trimmed and lower-cased first, and
nothing happens when one of them is blank. -/
def add (table : AliasTable) (short canonical : Text) : AliasTable × List Collision :=
  let key := short.trim.lowercase
  let target := canonical.trim.lowercase
  if key.isEmpty || target.isEmpty then (table, [])
  else if table.contains key then (table, [⟨key⟩])
  else (table.insert key target, [])

def extend (table : AliasTable) : List (Text × Text) → AliasTable × List Collision
  | [] => (table, [])
  | (short, canonical) :: rest =>
    let (table, first) := table.add short canonical
    let (table, later) := table.extend rest
    (table, first ++ later)

/-- The built-in aliases and the configured ones, in the order given. -/
def withExtra (extra : List (Text × Text)) : AliasTable × List Collision :=
  builtin.extend extra

/-- The id for a tag: what the table says about its lower-case form, or else that
form itself. The empty tag has none. -/
def resolve (table : AliasTable) (tag : Text) : Option Text :=
  if tag.isEmpty then none else some ((table.get? tag.lowercase).getD tag.lowercase)

end AliasTable

end MarkdownEditor
