import MarkdownEditor.Text.Basic

/-!
# Lines

A text is cut after every line feed. Each line keeps its line feed, so the
lines of a text put together again are the text.
-/

namespace MarkdownEditor.Text

set_option autoImplicit false

def lines : Text → List Text
  | [] => []
  | c :: t =>
    if c = '\n' then [c] :: lines t
    else
      match lines t with
      | [] => [[c]]
      | l :: ls => (c :: l) :: ls

theorem flatten_lines (t : Text) : (lines t).flatten = t := by
  induction t with
  | nil => rfl
  | cons c t ih =>
    simp only [lines]
    split
    · simp [ih]
    · split
      · next h => simp [h] at ih; simp [← ih]
      · next l ls h => simp [h] at ih; simp [ih]

/-- The line without its line feed. -/
def lineContent (line : Text) : Text :=
  if line.getLast? = some '\n' then line.dropLast else line

/-- The line feed of the line, or nothing on a last line that has none. -/
def lineEnd (line : Text) : Text :=
  if line.getLast? = some '\n' then ['\n'] else []

theorem lineContent_append_lineEnd (line : Text) :
    lineContent line ++ lineEnd line = line := by
  unfold lineContent lineEnd
  split
  · next h =>
    obtain ⟨init, rfl⟩ := List.getLast?_eq_some_iff.mp h
    simp
  · simp

/-- The text without one carriage return at its end. -/
def dropReturn (t : Text) : Text :=
  if t.getLast? = some '\r' then t.dropLast else t

end MarkdownEditor.Text
