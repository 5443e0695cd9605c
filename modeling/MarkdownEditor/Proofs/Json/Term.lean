import MarkdownEditor.Json.Number
import MarkdownEditor.Json.Value

/-!
# Values and the texts that spell them

A term is what a JSON text stands for, with numbers as they are written. One term has many
spellings: white space may stand around everything, and a character of a string may be escaped.
-/

namespace MarkdownEditor.Json

set_option autoImplicit false

def IsSpaces (t : Text) : Prop := ∀ c ∈ t, isSpace c = true

instance (t : Text) : Decidable (IsSpaces t) :=
  List.decidableBAll (fun c => isSpace c = true) t

theorem isSpaces_nil : IsSpaces [] := fun _ h => nomatch h

theorem skipSpace_spaces {spaces : Text} (h : IsSpaces spaces) (t : Text) :
    skipSpace (spaces ++ t) = skipSpace t :=
  List.dropWhile_append_of_pos h

/-- The text starts with what is no white space. -/
def StartsDark (t : Text) : Prop := ∃ c rest, t = c :: rest ∧ isSpace c = false

theorem StartsDark.append {t : Text} (h : StartsDark t) (more : Text) : StartsDark (t ++ more) := by
  obtain ⟨c, rest, rfl, hDark⟩ := h
  exact ⟨c, rest ++ more, rfl, hDark⟩

theorem StartsDark.skipSpace_eq {t : Text} (h : StartsDark t) : skipSpace t = t := by
  obtain ⟨c, rest, rfl, hDark⟩ := h
  rw [skipSpace, List.dropWhile_cons_of_neg (by simp [hDark])]

def IsDigits (t : Text) : Prop := t ≠ [] ∧ ∀ c ∈ t, Text.isDigit c = true

structure Exponent where
  letter : Char
  sign : Option Char
  digits : Text
  isLetter : letter = 'e' ∨ letter = 'E'
  isSign : ∀ c ∈ sign, c = '+' ∨ c = '-'
  isDigits : IsDigits digits

def Exponent.text (e : Exponent) : Text := e.letter :: (e.sign.toList ++ e.digits)

structure Numeral where
  minus : Bool
  whole : Text
  /-- The digits after the point, if there is one. -/
  fraction : Option Text
  exponent : Option Exponent
  isDigits_whole : IsDigits whole
  /-- A leading zero stands alone. -/
  zero_alone : ∀ digits, whole = '0' :: digits → digits = []
  isDigits_fraction : ∀ digits ∈ fraction, IsDigits digits

namespace Numeral

def fractionText (n : Numeral) : Text :=
  match n.fraction with
  | none => []
  | some digits => '.' :: digits

def exponentText (n : Numeral) : Text :=
  match n.exponent with
  | none => []
  | some e => e.text

/-- The number without its sign. -/
def body (n : Numeral) : Text := n.whole ++ (n.fractionText ++ n.exponentText)

def text (n : Numeral) : Text := if n.minus then '-' :: n.body else n.body

/-- The number, if it is written as a natural number of at most 64 bits. -/
def natural? (n : Numeral) : Option Nat :=
  if n.minus || n.fraction.isSome || n.exponent.isSome then none
  else if Text.ofDigits n.whole ≤ maxWord then some (Text.ofDigits n.whole)
  else none

end Numeral

/-- Four hexadecimal digits and their number. -/
inductive Quad : Nat → Text → Prop
  | mk {a b c d : Char} {w x y z : Nat} (ha : Text.hexValue? a = some w)
      (hb : Text.hexValue? b = some x) (hc : Text.hexValue? c = some y)
      (hd : Text.hexValue? d = some z) : Quad (((w * 16 + x) * 16 + y) * 16 + z) [a, b, c, d]

/-- The characters of a string and what stands for them between the quotes. -/
inductive SpellsString : Text → Text → Prop
  | nil : SpellsString [] []
  | plain {c : Char} {s raw : Text} (hQuote : c ≠ '"') (hEscape : c ≠ '\\') (hc : ¬ c < ' ')
      (h : SpellsString s raw) : SpellsString (c :: s) (c :: raw)
  | escaped {c d : Char} {s raw : Text} (hc : simpleEscape? c = some d) (h : SpellsString s raw) :
      SpellsString (d :: s) ('\\' :: c :: raw)
  | unicode {n : Nat} {hex s raw : Text} (hHex : Quad n hex) (hLeading : isLeading n = false)
      (hTrailing : isTrailing n = false) (h : SpellsString s raw) :
      SpellsString (Char.ofNat n :: s) ('\\' :: 'u' :: (hex ++ raw))
  | pair {n k : Nat} {hex hex' s raw : Text} (hHex : Quad n hex) (hLeading : isLeading n = true)
      (hHex' : Quad k hex') (hTrailing : isTrailing k = true) (h : SpellsString s raw) :
      SpellsString (Char.ofNat (0x10000 + (n - 0xD800) * 0x400 + (k - 0xDC00)) :: s)
        ('\\' :: 'u' :: (hex ++ '\\' :: 'u' :: (hex' ++ raw)))

inductive Term where
  | null
  | bool (value : Bool)
  | number (value : Numeral)
  | string (value : Text)
  | list (elements : List Term)
  | object (members : List (Text × Term))

section

variable {α : Type} (closing : Char) (item : α → Text → Prop)

/-- What stands behind an item: the further items and the closing bracket. -/
inductive Further : List α → Text → Prop
  | close {spaces : Text} (h : IsSpaces spaces) : Further [] (spaces ++ [closing])
  | comma {a : α} {as : List α} {spaces spaces' t more : Text} (h : IsSpaces spaces)
      (h' : IsSpaces spaces') (hItem : item a t) (hMore : Further as more) :
      Further (a :: as) (spaces ++ ',' :: (spaces' ++ (t ++ more)))

/-- What stands behind an opening bracket. -/
inductive Enclosed : List α → Text → Prop
  | close {spaces : Text} (h : IsSpaces spaces) : Enclosed [] (spaces ++ [closing])
  | first {a : α} {as : List α} {spaces t more : Text} (h : IsSpaces spaces) (hItem : item a t)
      (hMore : Further closing item as more) : Enclosed (a :: as) (spaces ++ (t ++ more))

end

/-- A key, a colon and a value. -/
inductive SpellsMember (value : Term → Text → Prop) : Text × Term → Text → Prop
  | mk {key raw spaces spaces' t : Text} {v : Term} (hKey : SpellsString key raw)
      (h : IsSpaces spaces) (h' : IsSpaces spaces') (hValue : value v t) :
      SpellsMember value (key, v) ('"' :: (raw ++ '"' :: (spaces ++ ':' :: (spaces' ++ t))))

inductive Spells : Term → Text → Prop
  | null : Spells .null "null".toList
  | bool (b : Bool) : Spells (.bool b) (boolean b)
  | number (n : Numeral) : Spells (.number n) n.text
  | string {s raw : Text} (h : SpellsString s raw) : Spells (.string s) ('"' :: (raw ++ ['"']))
  | list {vs : List Term} {t : Text} (h : Enclosed ']' Spells vs t) : Spells (.list vs) ('[' :: t)
  | object {ms : List (Text × Term)} {t : Text} (h : Enclosed '\x7d' (SpellsMember Spells) ms t) :
      Spells (.object ms) ('\x7b' :: t)

/-- A whole text: a value with white space around it. -/
def IsDocument (v : Term) (t : Text) : Prop :=
  ∃ spaces text spaces', IsSpaces spaces ∧ Spells v text ∧ IsSpaces spaces' ∧
    t = spaces ++ (text ++ spaces')

end MarkdownEditor.Json
