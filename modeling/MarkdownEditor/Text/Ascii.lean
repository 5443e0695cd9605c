import MarkdownEditor.Text.Basic

/-!
# ASCII

The first 128 characters: which of them are signs, white space or control
characters, and the numbers that are written with their digits. The letters of
a hexadecimal number count in upper and in lower case.
-/

namespace MarkdownEditor.Text

set_option autoImplicit false

def isAscii (c : Char) : Bool := c.toNat < 0x80

/-- One of the 32 printable characters that are no letters, digits or spaces. -/
def isAsciiSign (c : Char) : Bool :=
  ('!' ≤ c && c ≤ '/') || (':' ≤ c && c ≤ '@') || ('[' ≤ c && c ≤ '\x60') ||
    ('\x7b' ≤ c && c ≤ '~')

def isAsciiSpace (c : Char) : Bool := c == ' ' || ('\t' ≤ c && c ≤ '\r')

def isAsciiControl (c : Char) : Bool := c < ' ' || c == '\x7f'

def isSpaceOrTab (c : Char) : Bool := c == ' ' || c == '\t'

def dropAsciiSpaceAtEnd (t : Text) : Text := (t.reverse.dropWhile isAsciiSpace).reverse

/-- The text without the white space of ASCII at its two ends. -/
def trimAscii (t : Text) : Text := dropAsciiSpaceAtEnd (t.dropWhile isAsciiSpace)

def isDigit (c : Char) : Bool := '0' ≤ c && c ≤ '9'

def digitValue (c : Char) : Nat := c.toNat - '0'.toNat

/-- The decimal digits of `n`, without leading zeros. -/
def decimal (n : Nat) : Text := Nat.toDigits 10 n

/-- The number that a run of digits stands for. -/
def ofDigits (digits : Text) : Nat := digits.foldl (fun n c => 10 * n + digitValue c) 0

theorem isDigit_of_mem_decimal {n : Nat} {c : Char} (h : c ∈ decimal n) : isDigit c = true := by
  have hDigit : c.isDigit = true := Nat.isDigit_of_mem_toDigits (by decide) (by decide) h
  simpa [isDigit, Char.isDigit, Char.le_def] using hDigit

theorem ofDigits_decimal (n : Nat) : ofDigits (decimal n) = n :=
  Nat.ofDigitChars_ten_toDigits

def hexValue? (c : Char) : Option Nat :=
  if '0' ≤ c && c ≤ '9' then some (c.toNat - '0'.toNat)
  else if 'a' ≤ c && c ≤ 'f' then some (c.toNat - 'a'.toNat + 10)
  else if 'A' ≤ c && c ≤ 'F' then some (c.toNat - 'A'.toNat + 10)
  else none

/-- The number that a run of hexadecimal digits stands for. -/
def ofHexDigits (digits : Text) : Nat :=
  digits.foldl (fun n c => 16 * n + (hexValue? c).getD 0) 0

end MarkdownEditor.Text
