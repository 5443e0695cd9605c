import MarkdownEditor.Command

/-!
# Keyboard shortcuts

A keymap is bound to one primary modifier. An event resolves to a command when
that modifier is held and neither the other one nor alt is. The list commands
need shift as well; there the shifted glyph of the digit counts as the digit.
-/

namespace MarkdownEditor

set_option autoImplicit false

inductive PrimaryModifier where
  | cmd
  | ctrl
deriving DecidableEq, Repr

namespace PrimaryModifier

/-- The conventional modifier of an operating system. -/
def ofSystem (name : Text) : PrimaryModifier :=
  if name = "macos".toList ∨ name = "ios".toList then .cmd else .ctrl

def label : PrimaryModifier → String
  | .cmd => "Cmd"
  | .ctrl => "Ctrl"

def id : PrimaryModifier → String
  | .cmd => "meta"
  | .ctrl => "control"

/-- The modifier of the platform the program runs on. -/
def platform : PrimaryModifier := ofSystem "linux".toList

end PrimaryModifier

/-- A key press: the character it produced and the modifiers that were held. -/
structure KeyEvent where
  key : Char
  ctrl : Bool
  cmd : Bool
  shift : Bool
  alt : Bool
deriving DecidableEq, Repr

structure Keymap where
  modifier : PrimaryModifier
deriving DecidableEq, Repr

namespace Keymap

def default : Keymap := ⟨.platform⟩

def primaryHeld (k : Keymap) (e : KeyEvent) : Bool :=
  match k.modifier with
  | .cmd => e.cmd && !e.ctrl
  | .ctrl => e.ctrl && !e.cmd

def plainCommand (key : Char) : Option Command :=
  match key with
  | 'b' => some .bold
  | 'i' => some .italic
  | 'e' => some .inlineCode
  | 'k' => some .link
  | 'z' => some .undo
  | _ => none

def shiftedCommand (key : Char) : Option Command :=
  match key with
  | '7' => some .orderedList
  | '&' => some .orderedList
  | '8' => some .unorderedList
  | '*' => some .unorderedList
  | _ => none

/-- The command bound to the event. ASCII letters match in either case. -/
def resolve (k : Keymap) (e : KeyEvent) : Option Command :=
  if k.primaryHeld e && !e.alt then
    if e.shift then shiftedCommand e.key.toLower else plainCommand e.key.toLower
  else none

def keyLabel : Command → String
  | .bold => "B"
  | .italic => "I"
  | .inlineCode => "E"
  | .link => "K"
  | .orderedList => "Shift+7"
  | .unorderedList => "Shift+8"
  | .undo => "Z"

/-- The shortcut as people read it, such as `Ctrl+Shift+7`. -/
def shortcutLabel (k : Keymap) (c : Command) : String :=
  k.modifier.label ++ "+" ++ keyLabel c

end Keymap

end MarkdownEditor
