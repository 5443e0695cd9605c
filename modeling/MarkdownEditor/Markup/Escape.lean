import MarkdownEditor.Text.Basic

/-!
# Escaping for markup

Five characters have a meaning in markup. `escape` replaces each of them by
its entity and keeps all others, so the result can stand in element content
and between quotes.
-/

namespace MarkdownEditor.Markup

set_option autoImplicit false

def isSpecial (c : Char) : Bool :=
  c == '&' || c == '<' || c == '>' || c == '"' || c == '\''

def entity : Char → Text
  | '&' => ['&', 'a', 'm', 'p', ';']
  | '<' => ['&', 'l', 't', ';']
  | '>' => ['&', 'g', 't', ';']
  | '"' => ['&', 'q', 'u', 'o', 't', ';']
  | '\'' => ['&', '#', '3', '9', ';']
  | c => [c]

/-- The escaped text, or nothing when the text can be used as it is. -/
def escape? (t : Text) : Option Text :=
  if t.any isSpecial then some (t.flatMap entity) else none

def escape (t : Text) : Text := (escape? t).getD t

theorem entity_of_not_isSpecial {c : Char} (h : isSpecial c = false) : entity c = [c] := by
  unfold entity
  split <;> simp_all [isSpecial]

/-- The shortcut for texts without special characters changes nothing. -/
theorem escape_eq_flatMap (t : Text) : escape t = t.flatMap entity := by
  unfold escape escape?
  split
  · rfl
  · next h =>
    have hPlain : ∀ c ∈ t, entity c = [c] := by
      intro c hc
      apply entity_of_not_isSpecial
      simp only [List.any_eq_true, not_exists, not_and] at h
      simpa using h c hc
    clear h
    induction t with
    | nil => rfl
    | cons c t ih =>
      simp only [Option.getD_none] at ih ⊢
      rw [List.flatMap_cons, hPlain c List.mem_cons_self,
        ← ih fun d hd => hPlain d (List.mem_cons_of_mem _ hd)]
      rfl

@[simp] theorem escape_nil : escape [] = [] := rfl

theorem escape_cons (c : Char) (t : Text) : escape (c :: t) = entity c ++ escape t := by
  simp [escape_eq_flatMap]

theorem escape_append (s t : Text) : escape (s ++ t) = escape s ++ escape t := by
  simp [escape_eq_flatMap]

end MarkdownEditor.Markup
