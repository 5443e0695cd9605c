import MarkdownEditor.Proofs.Markup.Mark

/-!
# Reading spans off their markup

The markup of spans does not show three things: the grammar of a fenced block, an
empty text, and where one of two neighbouring texts ends. `normalizeAll` settles
them. All the rest can be read back: the marks of a markup, taken from the right,
rebuild the spans in their normal form. So two lists of spans have the same markup
only if they are the same up to these three things.
-/

namespace MarkdownEditor

set_option autoImplicit false

namespace Span

/-- Puts a span before its siblings. An empty text is left out, and a text joins the text
after it. -/
def join : Span → List Span → List Span
  | .text [], rest => rest
  | .text t, .text u :: rest => .text (t ++ u) :: rest
  | s, rest => s :: rest

mutual

/-- The span with no grammar on any fenced block and its children in normal form. -/
def normalize : Span → Span
  | .text t => .text t
  | .token cls t => .token cls t
  | .codeBlock tag _ children => .codeBlock tag none (normalizeAll children)

/-- The spans in normal form: no grammars, no empty texts and no two texts side by side,
at every level. -/
def normalizeAll : List Span → List Span
  | [] => []
  | s :: rest => join (normalize s) (normalizeAll rest)

end

theorem join_text_cons (c : Char) (t : Text) (rest : List Span) :
    join (.text (c :: t)) rest = join (.text [c]) (join (.text t) rest) := by
  cases t with
  | nil => rfl
  | cons d t =>
    cases rest with
    | nil => rfl
    | cons s rest => cases s <;> rfl

theorem visibleAll_join_text (t : Text) (rest : List Span) :
    visibleAll (join (.text t) rest) = t ++ visibleAll rest := by
  cases t with
  | nil => rfl
  | cons c t =>
    cases rest with
    | nil => rfl
    | cons s rest =>
      cases s with
      | text u => exact List.append_assoc _ _ _
      | token cls u => rfl
      | codeBlock tag grammar children => rfl

end Span

namespace Markup

/-- What was read from the right: the spans after this place, and the spans after each
element that this place is in, innermost first. -/
structure Reading where
  siblings : List Span
  outer : List (List Span)

namespace Reading

/-- Ends the innermost element, whose opening tag has been reached. -/
def wrap (r : Reading) (build : List Span → Span) : Reading :=
  match r.outer with
  | [] => r
  | siblings :: outer => ⟨build r.siblings :: siblings, outer⟩

end Reading

def Mark.read : Mark → Reading → Reading
  | .char c, r => { r with siblings := Span.join (.text [c]) r.siblings }
  | .tag (.token cls), r => r.wrap fun inside => .token cls (Span.visibleAll inside)
  | .tag (.codeBlock language), r => r.wrap (.codeBlock language none)
  | .tag .closing, r => ⟨[], r.siblings :: r.outer⟩

namespace Mark

def toSpans (ms : List Mark) : List Span := (ms.foldr read ⟨[], []⟩).siblings

theorem foldr_read_map_char (t : Text) (r : Reading) :
    (t.map char).foldr read r = { r with siblings := Span.join (.text t) r.siblings } := by
  induction t with
  | nil => rfl
  | cons c t ih =>
    rw [List.map_cons, List.foldr_cons, ih, Span.join_text_cons]
    rfl

theorem foldr_read_element (t : Tag) (inside : List Mark) (r : Reading) :
    (element t inside).foldr read r =
      read (.tag t) (inside.foldr read ⟨[], r.siblings :: r.outer⟩) := by
  rw [element, List.foldr_cons, List.foldr_append]
  rfl

theorem foldr_read_ofSpans (spans : List Span) (outer : List (List Span)) :
    (ofSpans spans).foldr read ⟨[], outer⟩ = ⟨Span.normalizeAll spans, outer⟩ := by
  induction spans using Span.list_induction generalizing outer with
  | nil => rfl
  | text t rest ih =>
    rw [ofSpans, ofSpan, List.foldr_append, ih, foldr_read_map_char]
    rfl
  | token cls t rest ih =>
    rw [ofSpans, ofSpan, List.foldr_append, ih, foldr_read_element, foldr_read_map_char]
    change (⟨.token cls (Span.visibleAll (Span.join (.text t) [])) :: Span.normalizeAll rest,
      outer⟩ : Reading) = ⟨.token cls t :: Span.normalizeAll rest, outer⟩
    rw [Span.visibleAll_join_text, Span.visibleAll, List.append_nil]
  | codeBlock language grammar children rest ihChildren ih =>
    rw [ofSpans, ofSpan, List.foldr_append, ih, foldr_read_element, ihChildren]
    rfl

theorem toSpans_ofSpans (spans : List Span) : toSpans (ofSpans spans) = Span.normalizeAll spans := by
  rw [toSpans, foldr_read_ofSpans]

theorem ofSpans_join (s : Span) (rest : List Span) :
    ofSpans (Span.join s rest) = ofSpan s ++ ofSpans rest := by
  unfold Span.join
  split
  · rfl
  · rw [ofSpans, ofSpan, List.map_append, List.append_assoc]
    rfl
  · rfl

theorem ofSpans_normalizeAll (spans : List Span) :
    ofSpans (Span.normalizeAll spans) = ofSpans spans := by
  induction spans using Span.list_induction with
  | nil => rfl
  | text t rest ih =>
    rw [Span.normalizeAll, ofSpans_join, ih]
    rfl
  | token cls t rest ih =>
    rw [Span.normalizeAll, ofSpans_join, ih]
    rfl
  | codeBlock language grammar children rest ihChildren ih =>
    rw [Span.normalizeAll, ofSpans_join, ih, Span.normalize, ofSpan, ihChildren]
    rfl

end Mark

/-- The markup of spans shows them up to their normal form, and no more. -/
theorem htmlAll_eq_iff (a b : List Span) :
    Span.htmlAll a = Span.htmlAll b ↔ Span.normalizeAll a = Span.normalizeAll b := by
  rw [← Mark.flatMap_html_ofSpans, ← Mark.flatMap_html_ofSpans]
  constructor
  · intro h
    rw [← Mark.toSpans_ofSpans, ← Mark.toSpans_ofSpans, Mark.flatMap_html_injective h]
  · intro h
    rw [← Mark.ofSpans_normalizeAll a, h, Mark.ofSpans_normalizeAll]

end Markup

end MarkdownEditor
