import MarkdownEditor.Preview.Document

/-!
# Table rows

A row is cut into cells at its bars. A bar after a backslash is part of its
cell. The delimiter row under the header says how the columns are aligned.
-/

namespace MarkdownEditor.Preview

set_option autoImplicit false

def isCellSpace (c : Char) : Bool := c == ' ' || c == '\t' || c == '\x0b' || c == '\x0c'

/-- The text without the backslashes before bars. -/
def dropBarEscapes : Text → Text
  | [] => []
  | c :: t => if c = '\\' && t.head? = some '|' then dropBarEscapes t else c :: dropBarEscapes t

/-- The texts between bars. -/
def betweenBars : Text → List Text
  | [] => [[]]
  | '\\' :: '|' :: t =>
    match betweenBars t with
    | cell :: cells => ('\\' :: '|' :: cell) :: cells
    | [] => [['\\', '|']]
  | c :: t =>
    if c = '|' then [] :: betweenBars t
    else
      match betweenBars t with
      | cell :: cells => (c :: cell) :: cells
      | [] => [[c]]

/-- The texts between bars, without an empty one after the last bar. -/
def dropLastEmpty (cells : List Text) : List Text :=
  match cells.reverse with
  | [] => []
  | [cell] => if cell.isEmpty then [] else [cell]
  | cell :: before => if cell.all isCellSpace then before.reverse else cells

/-- The cells of a row. A bar at its start counts for nothing, nor does one at its end. -/
def rowCells (line : Text) : List Text :=
  let t := if line.head? = some '|' then (line.drop 1).dropWhile isCellSpace else line
  (dropLastEmpty (betweenBars t)).map fun cell => Text.trimAscii (dropBarEscapes cell)

/-- A row with as many cells as there are columns. -/
def rowFor (columns : Nat) (line : Text) : List Text :=
  ((rowCells line).take columns).rightpad columns []

/-- The alignment that a cell of the delimiter row asks for. -/
def alignment? (cell : Text) : Option Alignment :=
  let left := cell.head? = some ':'
  let dashes := cell.drop (if left then 1 else 0)
  let right := dashes.getLast? = some ':'
  let dashes := if right then dashes.dropLast else dashes
  if dashes.isEmpty || !dashes.all (· == '-') then none
  else if left && right then some .center
  else if left then some .left
  else if right then some .right
  else some .unset

/-- The alignments of a delimiter row. -/
def delimiterRow? (line : Text) : Option (List Alignment) :=
  match (rowCells line).mapM alignment? with
  | some [] => none
  | read => read

end MarkdownEditor.Preview
