import MarkdownEditor.Preview.EntityTable
import MarkdownEditor.Text.Ascii

/-!
# Entities and escapes

Two ways to write a character without its meaning in markdown: an entity, by
name or by number, and a backslash before an ASCII sign.
-/

namespace MarkdownEditor.Preview

set_option autoImplicit false

def entityOfEntry (entry : String) : Text × Text :=
  match entry.splitOn "=" with
  | [name, codes] =>
    (name.toList, (codes.splitOn "+").map fun code => Char.ofNat (Text.ofHexDigits code.toList))
  | _ => (entry.toList, [])

def entityTable : List (Text × Text) :=
  (entityEntries.flatMap fun entries => entries.splitOn " ").map entityOfEntry

/-- The characters after an ampersand that are an entity: what they stand for, and how many
they are. -/
abbrev EntityRead := Text × Nat

def replacementChar : Char := '\ufffd'

/-- Numbers that are no characters stand for the replacement character. -/
def charOfCode (n : Nat) : Char :=
  if n = 0 || (0xD800 ≤ n && n ≤ 0xE000) || 0x10FFFF < n then replacementChar else Char.ofNat n

/-- A number between the `signs` before it and a semicolon. It has at most eight digits. -/
def numberedEntity? (value : Text → Nat) (signs : Nat) (digits rest : Text) : Option EntityRead :=
  if 1 ≤ digits.length && digits.length ≤ 8 && rest.head? == some ';' then
    some ([charOfCode (value digits)], signs + digits.length + 1)
  else none

/-- A number after its sign. -/
def entityByNumber? (t : Text) : Option EntityRead :=
  match t with
  | [] => none
  | x :: hexadecimal =>
    if x = 'x' || x = 'X' then
      let digits := hexadecimal.takeWhile fun c => (Text.hexValue? c).isSome
      numberedEntity? Text.ofHexDigits 2 digits (hexadecimal.drop digits.length)
    else
      let digits := t.takeWhile Text.isDigit
      numberedEntity? Text.ofDigits 1 digits (t.drop digits.length)

def maxEntitySize : Nat := 31

def entityByName? (t : Text) : Option EntityRead :=
  let name := (t.take (maxEntitySize + 1)).takeWhile Char.isAlphanum
  if (t.drop name.length).head? = some ';' then
    (entityTable.find? fun entry => entry.1 == name).map fun entry =>
      (entry.2, name.length + 1)
  else none

/-- The entity that starts here, after its ampersand. -/
def entity? (t : Text) : Option EntityRead :=
  match t with
  | '#' :: number => entityByNumber? number
  | _ => entityByName? t

def decodeEntities (t : Text) : Text :=
  match t with
  | [] => []
  | c :: rest =>
    match if c = '&' then entity? rest else none with
    | some (chars, size) => chars ++ decodeEntities (rest.drop size)
    | none => c :: decodeEntities rest
termination_by t.length
decreasing_by
  · simp only [List.length_drop, List.length_cons]
    omega
  · simp

/-- The text without the backslashes before ASCII signs. -/
def dropEscapes : Text → Text
  | '\\' :: c :: t => if Text.isAsciiSign c then c :: dropEscapes t else '\\' :: dropEscapes (c :: t)
  | c :: t => c :: dropEscapes t
  | [] => []

/-- A text outside of the content proper, such as an address, as it is meant. -/
def literalText (t : Text) : Text := dropEscapes (decodeEntities t)

end MarkdownEditor.Preview
