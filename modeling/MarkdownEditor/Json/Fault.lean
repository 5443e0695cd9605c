import MarkdownEditor.Text.Ascii
import MarkdownEditor.Text.Quoted

/-!
# Faults in JSON texts

A fault is the first problem a reader meets, with the text that is left unread
there. Its position is that of the last byte read: the line counts line feeds,
the column counts bytes.
-/

namespace MarkdownEditor.Json

set_option autoImplicit false

/-- What was found where something else was expected. -/
inductive Found where
  | null
  | bool (value : Bool)
  | natural (value : Nat)
  /-- The integer `-value`. -/
  | negative (value : Nat)
  | float (text : Text)
  | string (value : Text)
  | list
  | object
deriving DecidableEq, Repr

def Found.describe : Found → Text
  | .null => "null".toList
  | .bool true => "boolean `true`".toList
  | .bool false => "boolean `false`".toList
  | .natural n => "integer `".toList ++ Text.decimal n ++ "`".toList
  | .negative n => "integer `-".toList ++ Text.decimal n ++ "`".toList
  | .float t => "floating point `".toList ++ t ++ "`".toList
  | .string t => "string ".toList ++ t.quote
  | .list => "sequence".toList
  | .object => "map".toList

inductive Problem where
  | endInValue
  | endInObject
  | endInList
  | endInString
  | expectedValue
  | expectedIdent
  | expectedColon
  | expectedCommaOrBrace
  | expectedCommaOrBracket
  | keyNotString
  | trailingComma
  | trailingCharacters
  | invalidNumber
  | numberOutOfRange
  | invalidEscape
  | controlCharacter
  | unfinishedSurrogate
  | loneSurrogate
  | tooDeep
  | wrongType (found : Found) (expected : String)
  | wrongValue (found : Found) (expected : String)
  | unknownVariant (name : Text) (known : List String)
  | repeatedField (name : Text)
deriving DecidableEq, Repr

def ticked (t : Text) : Text := "`".toList ++ t ++ "`".toList

def Problem.message : Problem → Text
  | .endInValue => "EOF while parsing a value".toList
  | .endInObject => "EOF while parsing an object".toList
  | .endInList => "EOF while parsing a list".toList
  | .endInString => "EOF while parsing a string".toList
  | .expectedValue => "expected value".toList
  | .expectedIdent => "expected ident".toList
  | .expectedColon => "expected `:`".toList
  | .expectedCommaOrBrace => "expected `,` or `\x7d`".toList
  | .expectedCommaOrBracket => "expected `,` or `]`".toList
  | .keyNotString => "key must be a string".toList
  | .trailingComma => "trailing comma".toList
  | .trailingCharacters => "trailing characters".toList
  | .invalidNumber => "invalid number".toList
  | .numberOutOfRange => "number out of range".toList
  | .invalidEscape => "invalid escape".toList
  | .controlCharacter =>
    "control character (\\u0000-\\u001F) found while parsing a string".toList
  | .unfinishedSurrogate => "unexpected end of hex escape".toList
  | .loneSurrogate => "lone leading surrogate in hex escape".toList
  | .tooDeep => "recursion limit exceeded".toList
  | .wrongType found expected =>
    "invalid type: ".toList ++ found.describe ++ ", expected ".toList ++ expected.toList
  | .wrongValue found expected =>
    "invalid value: ".toList ++ found.describe ++ ", expected ".toList ++ expected.toList
  | .unknownVariant name known =>
    "unknown variant ".toList ++ ticked name ++ ", expected one of ".toList ++
      Text.joinWith ", ".toList (known.map fun k => ticked k.toList)
  | .repeatedField name => "duplicate field ".toList ++ ticked name

/-- A problem, the text that is unread, and how many bytes of that text belong to
the problem all the same. -/
structure Fault where
  problem : Problem
  unread : Text
  extra : Nat
deriving DecidableEq, Repr

namespace Fault

/-- A problem with what was read. -/
def before (problem : Problem) (unread : Text) : Fault := ⟨problem, unread, 0⟩

/-- A problem with the next byte. -/
def next (problem : Problem) (unread : Text) : Fault := ⟨problem, unread, 1⟩

end Fault

structure Position where
  line : Nat
  column : Nat
deriving DecidableEq, Repr

namespace Position

def start : Position := ⟨1, 0⟩

def after (p : Position) (c : Char) : Position :=
  if c = '\n' then ⟨p.line + 1, 0⟩ else ⟨p.line, p.column + c.utf8Size⟩

/-- The position after `bytes` more bytes of the text. A character that is only
partly read counts with the bytes that are. -/
def afterBytes (p : Position) : Nat → Text → Position
  | _, [] => p
  | bytes, c :: t =>
    if bytes = 0 then p
    else if c.utf8Size ≤ bytes then afterBytes (p.after c) (bytes - c.utf8Size) t
    else ⟨p.line, p.column + bytes⟩

end Position

/-- Where in `source` the fault lies. -/
def Fault.position (source : Text) (f : Fault) : Position :=
  let read := source.take (source.length - f.unread.length)
  (read.foldl Position.after .start).afterBytes f.extra f.unread

def Fault.describe (source : Text) (f : Fault) : Text :=
  let p := f.position source
  f.problem.message ++ " at line ".toList ++ Text.decimal p.line ++ " column ".toList ++
    Text.decimal p.column

end MarkdownEditor.Json
