/-!
# Texts

A text is the list of its characters, so that every operation of the editor
is a function on lists. Its size in bytes is the size of its UTF-8 encoding.

Selections count characters, file positions count bytes. `byteOffset` and
`charOffset` convert between the two and send everything past the end to the
end, so a stale offset never cuts a character.
-/

namespace MarkdownEditor

set_option autoImplicit false

abbrev Text := List Char

namespace Text

def byteSize (t : Text) : Nat := t.foldr (fun c n => c.utf8Size + n) 0

@[simp] theorem byteSize_nil : byteSize [] = 0 := rfl

@[simp] theorem byteSize_cons (c : Char) (t : Text) :
    byteSize (c :: t) = c.utf8Size + byteSize t := rfl

@[simp] theorem byteSize_append (s t : Text) :
    byteSize (s ++ t) = byteSize s + byteSize t := by
  induction s with
  | nil => simp
  | cons c s ih => simp [ih, Nat.add_assoc]

/-- The texts one after the other, with `separator` between neighbours. -/
def joinWith (separator : Text) (ts : List Text) : Text :=
  (ts.intersperse separator).flatten

/-- The byte at which the character number `n` starts, or the size of the text. -/
def byteOffset : Text → Nat → Nat
  | [], _ => 0
  | _ :: _, 0 => 0
  | c :: t, n + 1 => c.utf8Size + byteOffset t n

/-- The number of characters that start before byte `b`. -/
def charOffset : Text → Nat → Nat
  | [], _ => 0
  | c :: t, b => if b = 0 then 0 else 1 + charOffset t (b - c.utf8Size)

def clampOffset (t : Text) (n : Nat) : Nat := min n t.length

/-- The characters from offset `a` up to but not including offset `b`. -/
def slice (t : Text) (a b : Nat) : Text := (t.take b).drop a

@[simp] theorem byteOffset_zero (t : Text) : byteOffset t 0 = 0 := by
  cases t <;> rfl

@[simp] theorem charOffset_zero (t : Text) : charOffset t 0 = 0 := by
  cases t <;> simp [charOffset]

theorem byteOffset_eq_byteSize_take (t : Text) (n : Nat) :
    byteOffset t n = byteSize (t.take n) := by
  induction t generalizing n with
  | nil => simp [byteOffset]
  | cons c t ih =>
    cases n with
    | zero => rfl
    | succ n => simp [byteOffset, ih]

@[simp] theorem slice_self (t : Text) (a : Nat) : slice t a a = [] := by
  simp [slice]

theorem length_slice (t : Text) (a b : Nat) :
    (slice t a b).length = min b t.length - a := by
  simp [slice]

end Text

end MarkdownEditor
