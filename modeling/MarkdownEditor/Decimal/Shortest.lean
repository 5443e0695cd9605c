import MarkdownEditor.Text.Ascii

/-!
# Shortest decimals

A binary floating-point number is printed with the fewest digits that read
back as the same number. The numbers that round to it form an interval; its
ends belong to it when the significand is even. The coarsest power of ten with
a multiple in the interval fixes the number of digits, and of two multiples
the nearer one is taken, in a tie the even one.
-/

namespace MarkdownEditor.Decimal

set_option autoImplicit false

/-- The number `digits * 10 ^ exponent`. -/
structure Scaled where
  digits : Nat
  exponent : Int
deriving DecidableEq, Repr

/-- A positive number `significand * 2 ^ exponent`; `narrow` says that the next
smaller number is only half as far away as the next larger one. -/
structure Binary where
  significand : Nat
  exponent : Int
  narrow : Bool
deriving DecidableEq, Repr

/-- The multiple of `10 ^ k` that is nearest to the number, if one rounds to it.
Everything is counted in quarters of the last binary place. -/
def multiple? (b : Binary) (k : Int) : Option Nat :=
  let q := b.exponent - 2
  let up := Nat.pow 2 q.toNat * Nat.pow 10 (-k).toNat
  let down := Nat.pow 2 (-q).toNat * Nat.pow 10 k.toNat
  let value := 4 * b.significand
  let low := (value - if b.narrow then 1 else 2) * up
  let high := (value + 2) * up
  let inside (d : Nat) : Bool :=
    0 < d &&
      if b.significand % 2 = 0 then low ≤ d * down && d * down ≤ high
      else low < d * down && d * down < high
  let below := value * up / down
  let above := below + 1
  let error (d : Nat) := max (d * down) (value * up) - min (d * down) (value * up)
  match inside below, inside above with
  | false, false => none
  | true, false => some below
  | false, true => some above
  | true, true =>
    if error below < error above then some below
    else if error above < error below then some above
    else if below % 2 = 0 then some below
    else some above

/-- Tries the exponents downwards from `k`. -/
def shortestFrom (b : Binary) (k : Int) : Nat → Scaled
  | 0 => ⟨0, 0⟩
  | steps + 1 =>
    match multiple? b k with
    | some d => ⟨d, k⟩
    | none => shortestFrom b (k - 1) steps

/-- Double precision spans the exponents from 308 down to -324. -/
def shortest (b : Binary) : Scaled := shortestFrom b 309 640

/-- The weights of the exponent and of the sign among the bits of a double: the 53rd
and the 64th bit. -/
def exponentUnit : Nat := 0x10000000000000

def signUnit : Nat := 0x8000000000000000

/-- The parts of a finite positive double. -/
def binaryOfBits (bits : Nat) : Binary :=
  let fraction : Nat := bits % exponentUnit
  let biased : Nat := bits / exponentUnit % 0x800
  if biased = 0 then ⟨fraction, -1074, false⟩
  else ⟨fraction + exponentUnit, (biased : Int) - 1075, fraction = 0 && 1 < biased⟩

def zeros (n : Nat) : Text := List.replicate n '0'

/-- Numbers from `0.00001` to below `10 ^ 16` are written positionally and always
with a fraction, all others with a signed exponent. -/
def layout (s : Scaled) : Text :=
  let digits := Text.decimal s.digits
  let point : Int := s.exponent + digits.length
  if -5 < point && point ≤ 16 then
    if point ≤ 0 then "0.".toList ++ zeros (-point).toNat ++ digits
    else
      let whole := point.toNat
      if digits.length ≤ whole then digits ++ zeros (whole - digits.length) ++ ".0".toList
      else digits.take whole ++ ['.'] ++ digits.drop whole
  else
    let fraction := digits.drop 1
    let power := point - 1
    digits.take 1 ++ (if fraction.isEmpty then [] else '.' :: fraction) ++
      (if power < 0 then "e-".toList else "e+".toList) ++ Text.decimal power.natAbs

/-- The text of a finite double given by its bits. -/
def ofDoubleBits (bits : Nat) : Text :=
  let magnitude := bits % signUnit
  let sign : Text := if bits / signUnit = 0 then [] else ['-']
  sign ++ if magnitude = 0 then "0.0".toList else layout (shortest (binaryOfBits magnitude))

end MarkdownEditor.Decimal
