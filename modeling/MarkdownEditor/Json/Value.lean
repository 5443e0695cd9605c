import MarkdownEditor.Text.Ascii
import MarkdownEditor.Text.Quoted

/-!
# JSON values and their text

Values as far as the settings need them: numbers are natural. Strings escape the
quote, the backslash and the control characters and keep all else. The compact
form has no white space; the pretty form puts every member on a line of its own,
indented by two spaces.
-/

namespace MarkdownEditor.Json

set_option autoImplicit false

inductive Value where
  | null
  | bool (value : Bool)
  | natural (value : Nat)
  | string (value : Text)
  | list (elements : List Value)
  | object (members : List (Text × Value))

def hexDigit (n : Nat) : Char := Nat.digitChar n

def escapeChar (c : Char) : Text :=
  if c = '"' then ['\\', '"']
  else if c = '\\' then ['\\', '\\']
  else if c = '\x08' then ['\\', 'b']
  else if c = '\x0c' then ['\\', 'f']
  else if c = '\n' then ['\\', 'n']
  else if c = '\r' then ['\\', 'r']
  else if c = '\t' then ['\\', 't']
  else if c < ' ' then ['\\', 'u', '0', '0', hexDigit (c.toNat / 16), hexDigit (c.toNat % 16)]
  else [c]

def string (t : Text) : Text := ['"'] ++ t.flatMap escapeChar ++ ['"']

def boolean : Bool → Text
  | true => "true".toList
  | false => "false".toList

namespace Value

mutual

def compact : Value → Text
  | .null => "null".toList
  | .bool b => boolean b
  | .natural n => Text.decimal n
  | .string t => Json.string t
  | .list elements => ['['] ++ Text.joinWith [','] (compactElements elements) ++ [']']
  | .object members => ['\x7b'] ++ Text.joinWith [','] (compactMembers members) ++ ['\x7d']

def compactElements : List Value → List Text
  | [] => []
  | v :: rest => compact v :: compactElements rest

def compactMembers : List (Text × Value) → List Text
  | [] => []
  | (key, v) :: rest => (Json.string key ++ [':'] ++ compact v) :: compactMembers rest

end

/-- A line feed and the indentation of the given depth. -/
def newLine (depth : Nat) : Text := '\n' :: List.replicate (2 * depth) ' '

/-- The items on lines of their own between brackets; without items just the brackets. -/
def bracketed (opening closing : Char) (depth : Nat) (items : List Text) : Text :=
  if items.isEmpty then [opening, closing]
  else
    [opening] ++ newLine (depth + 1) ++ Text.joinWith (',' :: newLine (depth + 1)) items ++
      newLine depth ++ [closing]

mutual

def prettyAt (depth : Nat) : Value → Text
  | .null => "null".toList
  | .bool b => boolean b
  | .natural n => Text.decimal n
  | .string t => Json.string t
  | .list elements => bracketed '[' ']' depth (prettyElements (depth + 1) elements)
  | .object members => bracketed '\x7b' '\x7d' depth (prettyMembers (depth + 1) members)

def prettyElements (depth : Nat) : List Value → List Text
  | [] => []
  | v :: rest => prettyAt depth v :: prettyElements depth rest

def prettyMembers (depth : Nat) : List (Text × Value) → List Text
  | [] => []
  | (key, v) :: rest =>
    (Json.string key ++ [':', ' '] ++ prettyAt depth v) :: prettyMembers depth rest

end

def pretty (v : Value) : Text := prettyAt 0 v

end Value

end MarkdownEditor.Json
