import MarkdownEditor.Preview.Document
import MarkdownEditor.Text.Blank
import MarkdownEditor.Text.Punctuation

/-!
# Delimiters

Runs of equal marks open and close emphasis. The characters on its two sides
decide what a run can do. A run that closes is paired with the nearest run
before it that opens and matches. What finds no partner is text.
-/

namespace MarkdownEditor.Preview

set_option autoImplicit false

structure Run where
  mark : Char
  /-- How many marks were written. Whether two runs match depends on it. -/
  size : Nat
  /-- How many of them are not used up. -/
  left : Nat
  opens : Bool
  closes : Bool
deriving DecidableEq, Repr

/-- A bracket that may open a link or an image. -/
structure Bracket where
  isImage : Bool
  /-- Whether another bracket was opened while this one was the innermost. -/
  isFollowed : Bool
  /-- The text after it. -/
  after : Text
deriving DecidableEq, Repr

/-- A part of inline content as far as it is read. -/
inductive Item where
  | content (inline : Inline)
  | run (run : Run)
  | bracket (bracket : Bracket)

/-- An item without a partner. -/
def Item.plain : Item → Inline
  | .content inline => inline
  | .run r => .text (List.replicate r.left r.mark)
  | .bracket b => .text (if b.isImage then ['!', '['] else ['['])

/-- The character next to a run. Marks of deleted text are passed over if they are `skipped`. -/
def sideChar (skipped : Bool) (t : Text) : Char :=
  (if skipped then t.dropWhile (· == '~') else t).headD '\n'

namespace Run

/-- A run between two characters. -/
def between (before after mark : Char) (size : Nat) : Run :=
  let apart (c : Char) : Bool := Text.isBlankChar c || Text.isPunctuation c
  let leftFlanking := !Text.isBlankChar after && (!Text.isPunctuation after || apart before)
  let rightFlanking := !Text.isBlankChar before && (!Text.isPunctuation before || apart after)
  if mark = '_' then
    ⟨mark, size, size, leftFlanking && (!rightFlanking || Text.isPunctuation before),
      rightFlanking && (!leftFlanking || Text.isPunctuation after)⟩
  else ⟨mark, size, size, leftFlanking, rightFlanking⟩

/-- Whether the two runs can belong together. If one of them could do both, the sum of their
sizes is no multiple of three, unless both sizes are. -/
def matching (opener closer : Run) : Bool :=
  opener.opens && opener.mark == closer.mark &&
    !((closer.opens || opener.closes) && (opener.size + closer.size) % 3 == 0 &&
      !(opener.size % 3 == 0 && closer.size % 3 == 0))

/-- How many marks of each side a pair uses up. -/
def used (opener closer : Run) : Nat := if 2 ≤ opener.left && 2 ≤ closer.left then 2 else 1

end Run

/-- A run that opens, found among the items passed. -/
structure Opener where
  run : Run
  /-- What stands after it, in reading order. -/
  inside : List Inline
  below : List Item

/-- Looks for the nearest opener of a closing run; `inside` is what was passed. -/
def findOpener (closer : Run) (inside : List Inline) : List Item → Option Opener
  | [] => none
  | .run r :: below =>
    if r.matching closer then some ⟨r, inside, below⟩
    else findOpener closer ((Item.run r).plain :: inside) below
  | item :: below => findOpener closer (item.plain :: inside) below

/-- The items passed so far, the nearest first. -/
structure Pairing where
  passed : List Item
  /-- Set once two runs of marks for deleted text have met that do not use each other up. No
  more pairs are made then. -/
  isStopped : Bool

namespace Pairing

def push (p : Pairing) (item : Item) : Pairing := { p with passed := item :: p.passed }

/-- The items passed once the opener has got its partner. -/
def close (found : Opener) (used : Nat) : Pairing :=
  let rest := found.run.left - used
  let below :=
    if rest = 0 then found.below else .run { found.run with left := rest } :: found.below
  ⟨.content (.wrap found.run.mark used found.inside) :: below, false⟩

/-- Pairs the marks of a closing run, as often as the number of steps allows. -/
def closeRun : Nat → Run → Pairing → Pairing
  | 0, closer, p => p.push (.run closer)
  | steps + 1, closer, p =>
    match findOpener closer [] p.passed with
    | none => p.push (.run closer)
    | some found =>
      let used := found.run.used closer
      let rest := closer.left - used
      if closer.mark = '~' && (found.run.left != used || rest != 0) then
        { p.push (.run closer) with isStopped := true }
      else if rest = 0 then close found used
      else closeRun steps { closer with left := rest } (close found used)

def pass (p : Pairing) (item : Item) : Pairing :=
  match item with
  | .run r => if r.closes && !p.isStopped then closeRun r.left r p else p.push item
  | _ => p.push item

end Pairing

/-- The items, in reading order, as content. -/
def paired (items : List Item) : List Inline :=
  ((items.foldl Pairing.pass ⟨[], false⟩).passed.reverse).map Item.plain

end MarkdownEditor.Preview
