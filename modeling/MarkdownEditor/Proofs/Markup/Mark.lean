import MarkdownEditor.Markup.Span
import MarkdownEditor.Proofs.Markup.Unescape

/-!
# The marks of a markup

The markup of spans is written with marks: a mark is one character of a text or
one tag. No mark is the start of another one, so a markup says which marks it was
written with. What spans cover are the characters among their marks.
-/

namespace MarkdownEditor

set_option autoImplicit false

/-- To prove something of all lists of spans, prove it span by span, the spans inside a
fenced block first. -/
theorem Span.list_induction {P : List Span → Prop} (nil : P [])
    (text : ∀ t rest, P rest → P (.text t :: rest))
    (token : ∀ cls t rest, P rest → P (.token cls t :: rest))
    (codeBlock : ∀ tag grammar children rest, P children → P rest →
      P (.codeBlock tag grammar children :: rest)) :
    ∀ spans, P spans
  | [] => nil
  | .text t :: rest => text t rest (list_induction nil text token codeBlock rest)
  | .token cls t :: rest => token cls t rest (list_induction nil text token codeBlock rest)
  | .codeBlock tag grammar children :: rest =>
    codeBlock tag grammar children rest (list_induction nil text token codeBlock children)
      (list_induction nil text token codeBlock rest)

namespace Markup

inductive Tag where
  | token (cls : Text)
  | codeBlock (language : Text)
  | closing
deriving DecidableEq, Repr

namespace Tag

def tokenStart : Text := "span class=\"token ".toList

def codeBlockStart : Text := "span class=\"code-block\"".toList

def closingStart : Text := "/span".toList

/-- What every tag of its kind begins with. -/
def start : Tag → Text
  | .token _ => tokenStart
  | .codeBlock _ => codeBlockStart
  | .closing => closingStart

def value : Tag → Text
  | .token cls => escape cls ++ ['"']
  | .codeBlock language => Span.languageAttribute language
  | .closing => []

/-- What stands between the angle brackets of the tag. -/
def content (t : Tag) : Text := t.start ++ t.value

end Tag

inductive Mark where
  | char (c : Char)
  | tag (tag : Tag)
deriving DecidableEq, Repr

namespace Mark

def html : Mark → Text
  | .char c => entity c
  | .tag t => '<' :: t.content ++ ['>']

def char? : Mark → Option Char
  | .char c => some c
  | .tag _ => none

/-- The marks of an element: its tags around what is inside. -/
def element (t : Tag) (inside : List Mark) : List Mark := .tag t :: (inside ++ [.tag .closing])

mutual

/-- The marks that the markup of the span is written with. -/
def ofSpan : Span → List Mark
  | .text t => t.map .char
  | .token cls t => element (.token cls) (t.map .char)
  | .codeBlock language _ children => element (.codeBlock language) (ofSpans children)

def ofSpans : List Span → List Mark
  | [] => []
  | s :: rest => ofSpan s ++ ofSpans rest

end

theorem flatMap_html_map_char (t : Text) : (t.map char).flatMap html = escape t := by
  rw [List.flatMap_map, escape_eq_flatMap]
  rfl

theorem flatMap_html_element (t : Tag) (inside : List Mark) :
    (element t inside).flatMap html =
      ('<' :: t.content ++ ['>']) ++ inside.flatMap html ++ Span.spanClosing := by
  have hClosing : html (.tag .closing) = Span.spanClosing := by decide
  rw [element, List.flatMap_cons, List.flatMap_append, List.flatMap_singleton, hClosing]
  exact (List.append_assoc _ _ _).symm

theorem filterMap_char?_map_char (t : Text) : (t.map char).filterMap char? = t := by
  rw [List.filterMap_map]
  exact List.filterMap_some

theorem filterMap_char?_element (t : Tag) (inside : List Mark) :
    (element t inside).filterMap char? = inside.filterMap char? := by
  rw [element, List.filterMap_cons_none rfl, List.filterMap_append, List.filterMap_cons_none rfl,
    List.filterMap_nil, List.append_nil]

/-- The markup of spans is the markup of their marks. -/
theorem flatMap_html_ofSpans (spans : List Span) :
    (ofSpans spans).flatMap html = Span.htmlAll spans := by
  induction spans using Span.list_induction with
  | nil => rfl
  | text t rest ih =>
    rw [ofSpans, ofSpan, List.flatMap_append, flatMap_html_map_char, ih]
    rfl
  | token cls t rest ih =>
    have hOpening : '<' :: Tag.tokenStart = Span.spanOpening ++ "token ".toList := by decide
    rw [ofSpans, ofSpan, List.flatMap_append, flatMap_html_element, flatMap_html_map_char, ih,
      Tag.content, Tag.start, ← List.cons_append, hOpening, Span.htmlAll, Span.html]
    simp only [Tag.value, List.append_assoc, List.cons_append, List.nil_append]
  | codeBlock language grammar children rest ihChildren ih =>
    have hOpening : '<' :: Tag.codeBlockStart = Span.spanOpening ++ "code-block\"".toList := by
      decide
    rw [ofSpans, ofSpan, List.flatMap_append, flatMap_html_element, ihChildren, ih,
      Tag.content, Tag.start, ← List.cons_append, hOpening, Span.htmlAll, Span.html]
    rfl

/-- The characters among the marks of spans are what the spans cover. -/
theorem filterMap_char?_ofSpans (spans : List Span) :
    (ofSpans spans).filterMap char? = Span.visibleAll spans := by
  induction spans using Span.list_induction with
  | nil => rfl
  | text t rest ih =>
    rw [ofSpans, ofSpan, List.filterMap_append, filterMap_char?_map_char, ih]
    rfl
  | token cls t rest ih =>
    rw [ofSpans, ofSpan, List.filterMap_append, filterMap_char?_element, filterMap_char?_map_char,
      ih]
    rfl
  | codeBlock language grammar children rest ihChildren ih =>
    rw [ofSpans, ofSpan, List.filterMap_append, filterMap_char?_element, ihChildren, ih]
    rfl

end Mark

theorem Tag.not_mem_content (t : Tag) : '>' ∉ t.content := by
  have hEscape : ∀ t, '>' ∉ escape t := not_mem_escape (by decide) (by decide)
  rw [content, List.mem_append, not_or]
  cases t with
  | token cls => exact ⟨by rw [start]; decide, by simp [value, hEscape]⟩
  | codeBlock language =>
    refine ⟨by rw [start]; decide, ?_⟩
    rw [value, Span.languageAttribute]
    split
    · exact List.not_mem_nil
    · have hName : '>' ∉ " data-language=\"".toList := by decide
      simp only [List.mem_append, not_or]
      exact ⟨⟨hName, hEscape language⟩, by decide⟩
  | closing => exact ⟨by rw [start]; decide, List.not_mem_nil⟩

theorem languageAttribute_injective : Function.Injective Span.languageAttribute := by
  intro a b h
  unfold Span.languageAttribute at h
  split at h <;> split at h
  · next ha hb => rw [List.isEmpty_iff.mp ha, List.isEmpty_iff.mp hb]
  · simp at h
  · simp at h
  · rw [List.append_left_inj, List.append_right_inj] at h
    exact escape_injective h

theorem Tag.content_injective : Function.Injective Tag.content := by
  intro a b h
  have hStart : a.start <+: b.start ∨ b.start <+: a.start :=
    List.prefix_or_prefix_of_prefix ⟨a.value, h⟩ (List.prefix_append b.start b.value)
  cases a <;> cases b
  case token.token cls cls' =>
    simp only [content, start, value, List.append_left_inj, List.append_right_inj] at h
    rw [escape_injective h]
  case codeBlock.codeBlock language language' =>
    simp only [content, start, value, List.append_right_inj] at h
    rw [languageAttribute_injective h]
  case closing.closing => rfl
  -- tags of two kinds do not begin alike
  all_goals
    exfalso
    revert hStart
    simp only [start]
    decide

/-- Two texts that are cut at their first `c` are cut at the same place. -/
theorem append_cons_inj {c : Char} {u v x y : Text} (hu : c ∉ u) (hv : c ∉ v)
    (h : u ++ c :: x = v ++ c :: y) : u = v ∧ x = y := by
  induction u generalizing v with
  | nil =>
    cases v with
    | nil => exact ⟨rfl, (List.cons.inj h).2⟩
    | cons d v => exact absurd (List.cons.inj h).1 (List.ne_of_not_mem_cons hv)
  | cons d u ih =>
    cases v with
    | nil => exact absurd (List.cons.inj h).1.symm (List.ne_of_not_mem_cons hu)
    | cons e v =>
      obtain ⟨rfl, hRest⟩ := List.cons.inj h
      obtain ⟨rfl, rfl⟩ :=
        ih (List.not_mem_of_not_mem_cons hu) (List.not_mem_of_not_mem_cons hv) hRest
      exact ⟨rfl, rfl⟩

theorem entity_append_ne (c : Char) (t u : Text) : entity c ++ t ≠ '<' :: u := by
  intro h
  by_cases hc : c ∈ specials
  · obtain ⟨name, hName, -⟩ := exists_entity_eq hc
    rw [hName] at h
    exact absurd (List.cons.inj h).1 (by decide)
  · rw [entity_of_not_mem hc] at h
    obtain ⟨rfl, -⟩ := List.cons.inj h
    exact hc (by decide)

namespace Mark

theorem html_ne_nil (m : Mark) : m.html ≠ [] := by
  cases m with
  | char c => exact entity_ne_nil c
  | tag t => exact List.cons_ne_nil _ _

/-- No mark is the start of another one. -/
theorem html_append_inj {m n : Mark} {x y : Text} (h : m.html ++ x = n.html ++ y) :
    m = n ∧ x = y := by
  cases m <;> cases n
  case char.char c d =>
    obtain ⟨rfl, rfl⟩ := entity_append_inj h
    exact ⟨rfl, rfl⟩
  case char.tag c t => exact absurd h (entity_append_ne c x _)
  case tag.char t c => exact absurd h.symm (entity_append_ne c y _)
  case tag.tag t u =>
    simp only [html, List.append_assoc, List.cons_append, List.nil_append, List.cons.injEq,
      true_and] at h
    obtain ⟨hContent, rfl⟩ := append_cons_inj t.not_mem_content u.not_mem_content h
    rw [Tag.content_injective hContent]
    exact ⟨rfl, rfl⟩

/-- A markup says which marks it was written with. -/
theorem flatMap_html_injective {ms ns : List Mark} (h : ms.flatMap html = ns.flatMap html) :
    ms = ns := by
  induction ms generalizing ns with
  | nil =>
    cases ns with
    | nil => rfl
    | cons n ns => exact absurd (List.append_eq_nil_iff.mp h.symm).1 n.html_ne_nil
  | cons m ms ih =>
    cases ns with
    | nil => exact absurd (List.append_eq_nil_iff.mp h).1 m.html_ne_nil
    | cons n ns =>
      obtain ⟨rfl, hRest⟩ := html_append_inj h
      rw [ih hRest]

end Mark

end Markup

end MarkdownEditor
