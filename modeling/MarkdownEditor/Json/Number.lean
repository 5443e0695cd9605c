import MarkdownEditor.Decimal.Shortest
import MarkdownEditor.Json.Reader

/-!
# Reading numbers

An integer of at most 64 bits is read exactly. All other numbers become doubles:
the significand is made of the leading digits that fit 64 bits and is scaled by
a power of ten in double arithmetic. A result beyond the largest double is a
fault; a result that is too small is zero.
-/

namespace MarkdownEditor.Json

set_option autoImplicit false

inductive Number where
  | natural (value : Nat)
  /-- The integer `-value`. -/
  | negative (value : Nat)
  | float (value : Float)

def Number.found : Number → Found
  | .natural n => .natural n
  | .negative n => .negative n
  | .float f => .float (Decimal.ofDoubleBits f.toBits.toNat)

def maxWord : Nat := 0xFFFFFFFFFFFFFFFF

/-- Extends `n` by the digits as long as the number is at most `limit`. The digits
that are left over come with it. -/
def absorb (limit n : Nat) : Text → Nat × Text
  | [] => (n, [])
  | c :: digits =>
    let next := n * 10 + Text.digitValue c
    if next ≤ limit then absorb limit next digits else (n, c :: digits)

def powerOfTen (n : Nat) : Float := Float.ofScientific 1 false n

/-- Divides by `10 ^ n` in steps that doubles can hold. -/
def scaleDown (f : Float) (n : Nat) : Float :=
  if n ≤ 308 then f / powerOfTen n
  else if f == 0 then f
  else scaleDown (f / powerOfTen 308) (n - 308)
termination_by n
decreasing_by omega

/-- The double for `significand * 10 ^ exponent`, or nothing if it is too large. -/
def scale? (significand : Nat) (exponent : Int) : Option Float :=
  let f := significand.toUInt64.toFloat
  if exponent < 0 then some (scaleDown f exponent.natAbs)
  else if exponent ≤ 308 then
    let g := f * powerOfTen exponent.natAbs
    if g.isInf then none else some g
  else if f == 0 then some f
  else none

def signed (minus : Bool) (f : Float) : Float := if minus then -f else f

/-- What the digits before an exponent amount to: `significand * 10 ^ exponent`. -/
structure Mantissa where
  significand : Nat
  exponent : Int
  /-- Whether it is an integer that fits 64 bits. -/
  exact : Bool

/-- Reads the integer part. A leading zero stands alone. -/
def readWhole : Reader Mantissa
  | [] => .error (.before .endInValue [])
  | c :: rest =>
    if c = '0' then
      if rest.head?.any Text.isDigit then .error (.next .invalidNumber rest)
      else .ok ⟨⟨0, 0, true⟩, rest, length_lt_cons c rest⟩
    else if Text.isDigit c then
      let (significand, left) := absorb maxWord (Text.digitValue c) (rest.takeWhile Text.isDigit)
      .ok ⟨⟨significand, left.length, left.isEmpty⟩, rest.dropWhile Text.isDigit,
        length_dropWhile_lt_cons Text.isDigit c rest⟩
    else .error (.next .invalidNumber (c :: rest))

/-- Reads the digits after a decimal point, if there is one. Digits that no longer
fit are dropped. -/
def readFraction (m : Mantissa) (t : Text) : Except Fault (Read Mantissa (t.length + 1)) :=
  match t with
  | '.' :: rest =>
    let digits := rest.takeWhile Text.isDigit
    if digits.isEmpty then
      if rest.isEmpty then .error (.before .endInValue [])
      else .error (.next .invalidNumber rest)
    else
      let (significand, left) := absorb maxWord m.significand digits
      .ok ⟨⟨significand, m.exponent - (digits.length - left.length : Nat), false⟩,
        rest.dropWhile Text.isDigit, by
          have := length_dropWhile_le Text.isDigit rest
          simp
          omega⟩
  | t => .ok ⟨m, t, length_lt_succ t⟩

def maxExponent : Nat := 0x7FFFFFFF

/-- An exponent after its letter: whether it is negative, its digits, and the
text after its sign. -/
def splitSign (t : Text) : Bool × Text :=
  match t with
  | '+' :: rest => (false, rest)
  | '-' :: rest => (true, rest)
  | t => (false, t)

theorem length_splitSign_le (t : Text) : (splitSign t).2.length ≤ t.length := by
  unfold splitSign
  split <;> simp

def numberOf (minus : Bool) (value : Option Float) (unread : Text) {bound : Nat}
    (h : unread.length < bound) : Except Fault (Read Number bound) :=
  match value with
  | some f => .ok ⟨.float (signed minus f), unread, h⟩
  | none => .error (.before .numberOutOfRange unread)

/-- What follows the sign and the digits of an exponent. -/
def afterExponent (t : Text) : Text := (splitSign t).2.dropWhile Text.isDigit

theorem length_afterExponent_le (t : Text) : (afterExponent t).length ≤ t.length :=
  Nat.le_trans (length_dropWhile_le _ _) (length_splitSign_le t)

/-- Reads the exponent after its letter. An exponent of more than 31 bits is
settled at once: with a zero significand or a negative sign the number is zero. -/
def readExponent (minus : Bool) (m : Mantissa) (t : Text) :
    Except Fault (Read Number (t.length + 1)) :=
  let (down, start) := splitSign t
  if start.isEmpty then .error (.before .endInValue [])
  else if !start.head?.any Text.isDigit then .error (.next .invalidNumber start)
  else
    let unread := afterExponent t
    have hShort : (afterExponent t).length < t.length + 1 :=
      Nat.lt_succ_of_le (length_afterExponent_le t)
    match absorb maxExponent 0 (start.takeWhile Text.isDigit) with
    | (power, []) =>
      let exponent := if down then m.exponent - power else m.exponent + power
      numberOf minus (scale? m.significand exponent) unread hShort
    | (_, _ :: left) =>
      if m.significand ≠ 0 && !down then .error (.before .numberOutOfRange (left ++ unread))
      else .ok ⟨.float (signed minus 0), unread, hShort⟩

/-- Reads a number after its minus sign, if it has one. -/
def readNumber (minus : Bool) : Reader Number := fun t => do
  let whole ← readWhole t
  let m ← readFraction whole.value whole.unread
  have hShort : m.unread.length < t.length := by
    have := whole.short
    have := m.short
    omega
  match h : m.unread with
  | c :: rest =>
    have hRest : rest.length + 1 < t.length := by simpa [h] using hShort
    if c = 'e' || c = 'E' then
      return (← readExponent minus m.value rest).widen (by omega)
    else finish m.value (c :: rest) (by simpa using hRest)
  | [] => finish m.value [] (by simpa [h] using hShort)
where
  finish (m : Mantissa) (unread : Text) {bound : Nat} (h : unread.length < bound) :
      Except Fault (Read Number bound) :=
    if !m.exact then numberOf minus (scale? m.significand m.exponent) unread h
    else if !minus then .ok ⟨.natural m.significand, unread, h⟩
    else if 0 < m.significand && m.significand ≤ 0x8000000000000000 then
      .ok ⟨.negative m.significand, unread, h⟩
    else .ok ⟨.float (-m.significand.toUInt64.toFloat), unread, h⟩

/-- At least one digit. -/
def skipDigits : Reader Unit
  | [] => .error (.next .invalidNumber [])
  | c :: rest =>
    if Text.isDigit c then
      .ok ⟨(), rest.dropWhile Text.isDigit, length_dropWhile_lt_cons Text.isDigit c rest⟩
    else .error (.next .invalidNumber (c :: rest))

def skipWhole : Reader Unit
  | '0' :: rest =>
    if rest.head?.any Text.isDigit then .error (.next .invalidNumber rest)
    else .ok ⟨(), rest, length_lt_cons '0' rest⟩
  | t => skipDigits t

def skipFraction (t : Text) : Except Fault (Read Unit (t.length + 1)) :=
  match t with
  | '.' :: rest => (skipDigits rest).map (·.widen (by simp; omega))
  | t => .ok ⟨(), t, length_lt_succ t⟩

def skipExponent (t : Text) : Except Fault (Read Unit (t.length + 1)) :=
  match t with
  | [] => .ok ⟨(), [], Nat.lt_succ_self _⟩
  | c :: rest =>
    if c = 'e' || c = 'E' then
      (skipDigits (splitSign rest).2).map (·.widen (by
        have := length_splitSign_le rest
        simp
        omega))
    else .ok ⟨(), c :: rest, length_lt_succ (c :: rest)⟩

/-- Passes over a number after its minus sign. Its size does not matter. -/
def skipNumber : Reader Unit := fun t => do
  let whole ← skipWhole t
  let fraction ← skipFraction whole.unread
  let exponent ← skipExponent fraction.unread
  return ⟨(), exponent.unread, by
    have := whole.short
    have := fraction.short
    have := exponent.short
    omega⟩

end MarkdownEditor.Json
