import MarkdownEditor.Proofs.Markup.Unescape

/-!
# The texts that escaping makes

`IsEscaped` looks at a text alone: of the special characters it has only ampersands, and
each of these starts an entity. Such a text falls apart into entities and plain characters
from the left, so it is the escaped form of a text, and of one only. That text is read from
it entity by entity, in any order in which the one of the ampersand comes last.
-/

namespace MarkdownEditor.Markup

set_option autoImplicit false

theorem IsEscaped.of_append {front t : Text} (h : IsEscaped (front ++ t)) : IsEscaped t where
  plain := by
    obtain ⟨hLess, hGreater, hQuote, hApostrophe⟩ := h.plain
    simp only [List.mem_append, not_or] at hLess hGreater hQuote hApostrophe
    exact ⟨hLess.2, hGreater.2, hQuote.2, hApostrophe.2⟩
  entities := by
    rintro before after rfl
    exact h.entities (front ++ before) after (List.append_assoc _ _ _).symm

theorem IsEscaped.eq_ampersand {c : Char} {t : Text} (h : IsEscaped t) (hc : c ∈ t)
    (hSpecial : c ∈ specials) : c = '&' := by
  obtain ⟨hLess, hGreater, hQuote, hApostrophe⟩ := h.plain
  simp only [specials, List.mem_cons, List.not_mem_nil, or_false] at hSpecial
  rcases hSpecial with rfl | rfl | rfl | rfl | rfl
  · exact absurd hc hLess
  · exact absurd hc hGreater
  · exact absurd hc hQuote
  · exact absurd hc hApostrophe
  · rfl

/-- An escaped text starts with the escaped form of a character. -/
theorem IsEscaped.exists_cons {c : Char} {t : Text} (h : IsEscaped (c :: t)) :
    ∃ d rest, c :: t = entity d ++ rest := by
  by_cases hc : c ∈ specials
  · obtain rfl := h.eq_ampersand List.mem_cons_self hc
    obtain ⟨e, he, rest, hRest⟩ := h.entities [] t rfl
    rw [entities_eq] at he
    obtain ⟨d, -, rfl⟩ := List.mem_map.mp he
    exact ⟨d, rest, hRest.symm⟩
  · exact ⟨c, t, by rw [entity_of_not_mem hc, List.singleton_append]⟩

theorem exists_escape_eq : (u : Text) → IsEscaped u → ∃ s, escape s = u
  | [], _ => ⟨[], rfl⟩
  | c :: t, h => by
    obtain ⟨d, rest, hFirst⟩ := h.exists_cons
    have hShorter : rest.length < (c :: t).length := by
      have := List.length_pos_iff.mpr (entity_ne_nil d)
      rw [hFirst, List.length_append]
      omega
    rw [hFirst] at h ⊢
    obtain ⟨s, rfl⟩ := exists_escape_eq rest h.of_append
    exact ⟨d :: s, escape_cons d s⟩
termination_by u => u.length
decreasing_by exact hShorter

theorem exists_escape_eq_iff (u : Text) : (∃ s, escape s = u) ↔ IsEscaped u := by
  constructor
  · rintro ⟨s, rfl⟩
    exact isEscaped_escape s
  · exact exists_escape_eq u

theorem length_le_length_escape (t : Text) : t.length ≤ (escape t).length := by
  induction t with
  | nil => exact Nat.le_refl 0
  | cons c t ih =>
    have := List.length_pos_iff.mpr (entity_ne_nil c)
    rw [escape_cons, List.length_append, List.length_cons]
    omega

theorem one_lt_length_entity {c : Char} (h : c ∈ specials) : 1 < (entity c).length := by
  simp only [specials, List.mem_cons, List.not_mem_nil, or_false] at h
  rcases h with rfl | rfl | rfl | rfl | rfl
  all_goals decide

theorem not_mem_specials_of_escape_eq {t : Text} (h : escape t = t) : ∀ c ∈ t, c ∉ specials := by
  induction t with
  | nil => simp
  | cons d t ih =>
    rw [escape_cons] at h
    have hd : d ∉ specials := by
      intro hd
      -- the escaped form would be longer than the text
      have hSize := congrArg List.length h
      have hEntity := one_lt_length_entity hd
      have hRest := length_le_length_escape t
      rw [List.length_append, List.length_cons] at hSize
      omega
    rw [entity_of_not_mem hd, List.singleton_append] at h
    exact List.forall_mem_cons.mpr ⟨hd, ih (List.cons.inj h).2⟩

theorem escape?_eq_none_iff (t : Text) : escape? t = none ↔ escape t = t := by
  constructor
  · intro h
    rw [escape, h, Option.getD_none]
  · intro h
    have hPlain : ¬ t.any isSpecial = true := by
      rw [List.any_eq_true]
      rintro ⟨c, hc, hSpecial⟩
      exact not_mem_specials_of_escape_eq h c hc ((isSpecial_iff c).mp hSpecial)
    rw [escape?, if_neg hPlain]

/-- What it takes to be an escaper that answers with nothing where the text can stay: it
works character by character, it makes all escaped texts and no other ones, each of them of
one text only, and reading the entities gives this text. -/
structure IsEscaper (escape? : Text → Option Text) : Prop where
  append : ∀ s t,
    (escape? (s ++ t)).getD (s ++ t) = (escape? s).getD s ++ (escape? t).getD t
  image : ∀ u, (∃ s, (escape? s).getD s = u) ↔ IsEscaped u
  unique : ∀ u, IsEscaped u → ∃! s, (escape? s).getD s = u
  unescape : ∀ s order, order.Perm specials → order.getLast? = some '&' →
    unescapeIn order ((escape? s).getD s) = s
  shortcut : ∀ s, escape? s = none ↔ (escape? s).getD s = s

theorem isEscaper_escape : IsEscaper escape? where
  append := escape_append
  image := exists_escape_eq_iff
  unique := by
    intro u hu
    obtain ⟨s, hs⟩ := exists_escape_eq u hu
    exact ⟨s, hs, fun s' hs' => escape_injective (hs'.trans hs.symm)⟩
  unescape := fun s _ hOrder hLast => unescapeIn_escape hOrder hLast s
  shortcut := escape?_eq_none_iff

end MarkdownEditor.Markup
