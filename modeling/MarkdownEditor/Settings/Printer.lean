import MarkdownEditor.Editor.Buffer
import MarkdownEditor.Editor.Keymap
import MarkdownEditor.Json.Value
import MarkdownEditor.Language.Alias
import MarkdownEditor.Preview.Document

/-!
# Settings and how they are printed

The preferences of a user. `sanitize` brings values that were written by hand
into their ranges: the undo limit is clamped, and aliases that could never match
a tag are dropped.

Settings are printed as a JSON object with all fields in their order and the
aliases sorted by key: compact for the wire, pretty for the file.
-/

namespace MarkdownEditor

set_option autoImplicit false

/-- Which modifier the shortcuts use; `auto` follows the platform. -/
inductive ModifierPreference where
  | auto
  | cmd
  | ctrl
deriving DecidableEq, Repr

namespace ModifierPreference

def all : List ModifierPreference := [auto, cmd, ctrl]

def id : ModifierPreference → String
  | auto => "auto"
  | cmd => "meta"
  | ctrl => "control"

def ofId? (id : Text) : Option ModifierPreference := all.find? fun m => m.id.toList == id

def resolve : ModifierPreference → PrimaryModifier
  | auto => .platform
  | cmd => .cmd
  | ctrl => .ctrl

end ModifierPreference

structure Settings where
  primaryModifier : ModifierPreference
  undoHistoryLimit : Nat
  languageAliases : Dictionary Text
  preview : PreviewOptions
deriving DecidableEq

namespace Settings

def default : Settings := ⟨.auto, TextBuffer.defaultLimit, .empty, .default⟩

instance : Inhabited Settings := ⟨default⟩

def minUndoHistory : Nat := 1

def maxUndoHistory : Nat := 1000

/-- Aliases that can match: neither side is blank. -/
def isUsableAlias (key canonical : Text) : Bool :=
  !key.trim.isEmpty && !canonical.trim.isEmpty

def sanitize (s : Settings) : Settings :=
  { s with
    undoHistoryLimit := max minUndoHistory (min s.undoHistoryLimit maxUndoHistory)
    languageAliases := s.languageAliases.filter isUsableAlias }

/-- The built-in aliases and the configured ones, in the order of their keys. -/
def aliases (s : Settings) : AliasTable × List AliasTable.Collision :=
  AliasTable.withExtra s.languageAliases.entries

def keymap (s : Settings) : Keymap := ⟨s.primaryModifier.resolve⟩

end Settings

open Json

def PreviewOptions.toJson (p : PreviewOptions) : Json.Value :=
  .object
    [("tables".toList, .bool p.tables),
     ("strikethrough".toList, .bool p.strikethrough),
     ("autolink".toList, .bool p.autolink),
     ("tasklist".toList, .bool p.tasklist),
     ("allow_raw_html".toList, .bool p.allowRawHtml),
     ("hard_breaks".toList, .bool p.hardBreaks)]

def Settings.toJson (s : Settings) : Json.Value :=
  .object
    [("primary_modifier".toList, .string s.primaryModifier.id.toList),
     ("undo_history_limit".toList, .natural s.undoHistoryLimit),
     ("language_aliases".toList,
       .object (s.languageAliases.entries.map fun (key, value) => (key, .string value))),
     ("preview".toList, s.preview.toJson)]

end MarkdownEditor
