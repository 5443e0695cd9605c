import MarkdownEditor.Text.Basic

/-!
# UTF-8

Texts as bytes. `decode?` accepts well-formed UTF-8 only: no overlong forms, no
surrogates, nothing above U+10FFFF. `decodeLossy` puts U+FFFD for every longest
piece that could have begun a character.
-/

namespace MarkdownEditor

set_option autoImplicit false

abbrev Bytes := List UInt8

namespace Text

def byte (n : Nat) : UInt8 := UInt8.ofNat n

/-- The six bits at the given position, as a byte inside a sequence. -/
def continuationByte (n : Nat) : UInt8 := byte (0x80 + n % 64)

def encodeChar (c : Char) : Bytes :=
  let n := c.toNat
  if n < 0x80 then [byte n]
  else if n < 0x800 then [byte (0xC0 + n / 64), continuationByte n]
  else if n < 0x10000 then
    [byte (0xE0 + n / 4096), continuationByte (n / 64), continuationByte n]
  else
    [byte (0xF0 + n / 262144), continuationByte (n / 4096), continuationByte (n / 64),
      continuationByte n]

def encode (t : Text) : Bytes := t.flatMap encodeChar

/-- What a first byte says: the number of bytes that follow, the bits it holds, and
the bounds of the byte after it. -/
structure Lead where
  count : Nat
  bits : Nat
  low : Nat
  high : Nat

def lead? (b : UInt8) : Option Lead :=
  let n := b.toNat
  if n < 0x80 then some ⟨0, n, 0x80, 0xBF⟩
  else if n < 0xC2 then none
  else if n < 0xE0 then some ⟨1, n - 0xC0, 0x80, 0xBF⟩
  else if n = 0xE0 then some ⟨2, 0, 0xA0, 0xBF⟩
  else if n = 0xED then some ⟨2, 0xD, 0x80, 0x9F⟩
  else if n < 0xF0 then some ⟨2, n - 0xE0, 0x80, 0xBF⟩
  else if n = 0xF0 then some ⟨3, 0, 0x90, 0xBF⟩
  else if n < 0xF4 then some ⟨3, n - 0xF0, 0x80, 0xBF⟩
  else if n = 0xF4 then some ⟨3, 4, 0x80, 0x8F⟩
  else none

/-- Takes `count` bytes of a sequence, as far as they fit. The answer is the code
point, if all did, and the bytes that are left. -/
def takeSequence (bits low high : Nat) : Nat → Bytes → Option Nat × Bytes
  | 0, rest => (some bits, rest)
  | _ + 1, [] => (none, [])
  | count + 1, b :: rest =>
    if low ≤ b.toNat && b.toNat ≤ high then
      takeSequence (bits * 64 + b.toNat % 64) 0x80 0xBF count rest
    else (none, b :: rest)

theorem length_takeSequence_le (bits low high count : Nat) (bytes : Bytes) :
    (takeSequence bits low high count bytes).2.length ≤ bytes.length := by
  fun_induction takeSequence bits low high count bytes with
  | case1 => simp
  | case2 => simp
  | case3 bits low high count b rest _ ih => simp; omega
  | case4 => simp

/-- The characters that the bytes spell; nothing stands for an ill-formed piece. -/
def decodeAll : Bytes → List (Option Char)
  | [] => []
  | b :: rest =>
    match lead? b with
    | none => none :: decodeAll rest
    | some lead =>
      let taken := takeSequence lead.bits lead.low lead.high lead.count rest
      taken.1.map Char.ofNat :: decodeAll taken.2
termination_by bytes => bytes.length
decreasing_by
  · simp
  · have := length_takeSequence_le lead.bits lead.low lead.high lead.count rest
    simp
    omega

def decode? (bytes : Bytes) : Option Text := (decodeAll bytes).mapM id

def decodeLossy (bytes : Bytes) : Text := (decodeAll bytes).map (·.getD '\uFFFD')

end Text

end MarkdownEditor
