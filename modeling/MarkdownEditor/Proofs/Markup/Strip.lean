import MarkdownEditor.Proofs.Markup.Mark

/-!
# Markup without its tags

Taking every stretch from a `<` to the next `>` out of the markup of spans leaves
the escaped form of what the spans cover. No text, class or tag of a document can
derail this: inside a tag no `>` is written but the one that ends it, and between
the tags no `<` at all.
-/

namespace MarkdownEditor.Markup

set_option autoImplicit false

/-- The text without its tags; `inside` says whether it begins in the middle of one. -/
def stripFrom : (inside : Bool) → Text → Text
  | _, [] => []
  | false, c :: t => if c = '<' then stripFrom true t else c :: stripFrom false t
  | true, c :: t => if c = '>' then stripFrom false t else stripFrom true t

def stripTags (t : Text) : Text := stripFrom false t

theorem stripTags_append {u : Text} (h : '<' ∉ u) (t : Text) :
    stripTags (u ++ t) = u ++ stripTags t := by
  induction u with
  | nil => rfl
  | cons c u ih =>
    have hc : c ≠ '<' := (List.ne_of_not_mem_cons h).symm
    rw [List.cons_append, stripTags, stripFrom, if_neg hc]
    exact congrArg (c :: ·) (ih (List.not_mem_of_not_mem_cons h))

theorem stripFrom_true_append {u : Text} (h : '>' ∉ u) (t : Text) :
    stripFrom true (u ++ '>' :: t) = stripTags t := by
  induction u with
  | nil => rw [List.nil_append, stripFrom, if_pos rfl, stripTags]
  | cons c u ih =>
    have hc : c ≠ '>' := (List.ne_of_not_mem_cons h).symm
    rw [List.cons_append, stripFrom, if_neg hc]
    exact ih (List.not_mem_of_not_mem_cons h)

theorem stripTags_html_append (m : Mark) (t : Text) :
    stripTags (m.html ++ t) = (m.char?.elim [] entity) ++ stripTags t := by
  cases m with
  | char c =>
    have hc : '<' ∉ entity c := fun h =>
      absurd (eq_ampersand_of_mem_entity h (by decide)) (by decide)
    exact stripTags_append hc t
  | tag tag =>
    have hHtml : (Mark.tag tag).html ++ t = '<' :: (tag.content ++ '>' :: t) := by
      simp [Mark.html]
    rw [hHtml, stripTags, stripFrom, if_pos rfl]
    exact stripFrom_true_append tag.not_mem_content t

theorem stripTags_flatMap_html (ms : List Mark) :
    stripTags (ms.flatMap Mark.html) = escape (ms.filterMap Mark.char?) := by
  induction ms with
  | nil => rfl
  | cons m ms ih =>
    rw [List.flatMap_cons, stripTags_html_append, ih]
    cases m with
    | char c => exact (escape_cons c _).symm
    | tag t => rfl

theorem stripTags_htmlAll (spans : List Span) :
    stripTags (Span.htmlAll spans) = escape (Span.visibleAll spans) := by
  rw [← Mark.flatMap_html_ofSpans, stripTags_flatMap_html, Mark.filterMap_char?_ofSpans]

/-- The markup of spans, without its tags and with its entities read, is what the spans
cover. Without its tags it is an escaped text. -/
theorem unescape_stripTags_htmlAll (spans : List Span) :
    unescape (stripTags (Span.htmlAll spans)) = Span.visibleAll spans ∧
      IsEscaped (stripTags (Span.htmlAll spans)) := by
  rw [stripTags_htmlAll]
  exact ⟨unescape_escape _, isEscaped_escape _⟩

/-- An entity that the document spells out, between ready-made tags. -/
example : unescape (stripTags (Span.htmlAll [.token "\">".toList "</span>&amp;lt;".toList])) =
    "</span>&amp;lt;".toList := by cbv

end MarkdownEditor.Markup
