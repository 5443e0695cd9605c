import MarkdownEditor.Text.CaseTable
import MarkdownEditor.Text.WordChar

/-!
# Lower case

Every letter becomes its lower-case form. Two letters are special: the capital
I with a dot becomes two characters, and a capital sigma becomes a final sigma
where it ends a word, that is where the nearest character before it that is
not case-ignorable is cased and the nearest one after it is not.
-/

namespace MarkdownEditor.Text

set_option autoImplicit false

def lowercaseChar (c : Char) : Char :=
  let n := c.toNat
  match lowercaseRuns.find? fun (first, last, step, _) =>
      first ≤ n && n ≤ last && (n - first) % step == 0 with
  | some (first, _, _, target) => Char.ofNat (target + (n - first))
  | none => c

def isCaseIgnorable (c : Char) : Bool := inRanges caseIgnorableRanges c

def isCased (c : Char) : Bool := inRanges casedRanges c

/-- Whether the first character that is not case-ignorable is cased. -/
def startsCased (t : Text) : Bool :=
  match t.dropWhile isCaseIgnorable with
  | [] => false
  | c :: _ => isCased c

/-- The lower-case form of `c` between the characters before it, the nearest
one first, and those after it. -/
def lowercaseBetween (before : Text) (c : Char) (after : Text) : Text :=
  if c = 'Σ' then
    [if startsCased before && !startsCased after then 'ς' else 'σ']
  else if c = 'İ' then ['i', '\u0307']
  else [lowercaseChar c]

def lowercaseFrom (before : Text) : Text → Text
  | [] => []
  | c :: t => lowercaseBetween before c t ++ lowercaseFrom (c :: before) t

def lowercase (t : Text) : Text := lowercaseFrom [] t

/-- Lower case for the letters A to Z only. -/
def asciiLowercase (t : Text) : Text := t.map Char.toLower

theorem lowercaseBetween_ne_nil (before : Text) (c : Char) (after : Text) :
    lowercaseBetween before c after ≠ [] := by
  unfold lowercaseBetween
  split
  · simp
  · split <;> simp

theorem lowercase_eq_nil_iff (t : Text) : lowercase t = [] ↔ t = [] := by
  cases t with
  | nil => simp [lowercase, lowercaseFrom]
  | cons c t => simp [lowercase, lowercaseFrom, lowercaseBetween_ne_nil]

end MarkdownEditor.Text
