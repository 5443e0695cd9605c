import Mathlib.Data.List.Basic
import MarkdownEditor.Markup.Escape

/-!
# Reading escaped text

`unescape` replaces the five entities by their characters, one after the other
over the whole text and the ampersand last. It takes `escape` back, also where
the text looks escaped itself, because in an escaped text an ampersand stands
only at the start of an entity.
-/

namespace MarkdownEditor

set_option autoImplicit false

/-- The text with every occurrence of `pattern`, which is not empty, replaced from the
left. -/
def Text.replaceAll (pattern replacement : Text) : Text → Text
  | [] => []
  | c :: t =>
    if pattern.isPrefixOf (c :: t) then
      replacement ++ replaceAll pattern replacement (t.drop (pattern.length - 1))
    else c :: replaceAll pattern replacement t
termination_by t => t.length
decreasing_by
  · rw [List.length_drop, List.length_cons]
    omega
  · exact Nat.lt_succ_self t.length

namespace Text

variable {pattern replacement : Text}

theorem replaceAll_nil : replaceAll pattern replacement [] = [] := by
  rw [replaceAll]

theorem replaceAll_cons_of_not_prefix {c : Char} {t : Text} (h : ¬ pattern <+: c :: t) :
    replaceAll pattern replacement (c :: t) = c :: replaceAll pattern replacement t := by
  rw [replaceAll, if_neg]
  rwa [List.isPrefixOf_iff_prefix]

theorem replaceAll_append (h : pattern ≠ []) (t : Text) :
    replaceAll pattern replacement (pattern ++ t) =
      replacement ++ replaceAll pattern replacement t := by
  cases pattern with
  | nil => exact absurd rfl h
  | cons c rest =>
    rw [List.cons_append, replaceAll, if_pos]
    · rw [List.length_cons, Nat.add_sub_cancel, List.drop_left]
    · exact List.isPrefixOf_iff_prefix.mpr (List.prefix_append (c :: rest) t)

theorem replaceAll_append_of_not_mem {first : Char} {more u : Text} (h : first ∉ u) (t : Text) :
    replaceAll (first :: more) replacement (u ++ t) =
      u ++ replaceAll (first :: more) replacement t := by
  induction u with
  | nil => rfl
  | cons c u ih =>
    have hPrefix : ¬ first :: more <+: c :: (u ++ t) :=
      fun hPrefix => List.ne_of_not_mem_cons h (List.cons_prefix_cons.mp hPrefix).1
    rw [List.cons_append, replaceAll_cons_of_not_prefix hPrefix,
      ih (List.not_mem_of_not_mem_cons h), List.cons_append]

end Text

namespace Markup

/-- The entities and what they stand for, in the order in which they are read. -/
def entities : List (Text × Char) :=
  [(['&', 'l', 't', ';'], '<'), (['&', 'g', 't', ';'], '>'),
    (['&', 'q', 'u', 'o', 't', ';'], '"'), (['&', '#', '3', '9', ';'], '\''),
    (['&', 'a', 'm', 'p', ';'], '&')]

def unescape (t : Text) : Text := entities.foldl (fun t e => Text.replaceAll e.1 [e.2] t) t

def specials : Text := ['<', '>', '"', '\'', '&']

theorem entities_eq : entities = specials.map fun c => (entity c, c) := rfl

theorem isSpecial_iff (c : Char) : isSpecial c = true ↔ c ∈ specials := by
  simp only [isSpecial, specials, Bool.or_eq_true, beq_iff_eq, List.mem_cons, List.not_mem_nil,
    or_false]
  tauto

theorem entity_of_not_mem {c : Char} (h : c ∉ specials) : entity c = [c] :=
  entity_of_not_isSpecial (Bool.eq_false_iff.mpr (mt (isSpecial_iff c).mp h))

theorem exists_entity_eq {c : Char} (h : c ∈ specials) :
    ∃ name, entity c = '&' :: name ∧ ∀ d ∈ specials, d ∉ name := by
  simp only [specials, List.mem_cons, List.not_mem_nil, or_false] at h
  rcases h with rfl | rfl | rfl | rfl | rfl
  all_goals exact ⟨_, rfl, by simp [specials]⟩

theorem entity_ne_nil (c : Char) : entity c ≠ [] := by
  by_cases h : c ∈ specials
  · obtain ⟨name, hName, -⟩ := exists_entity_eq h
    simp [hName]
  · simp [entity_of_not_mem h]

theorem entity_prefix_inj {c d : Char} (hc : c ∈ specials) (hd : d ∈ specials) {t : Text}
    (h : entity c <+: entity d ++ t) : c = d := by
  simp only [specials, List.mem_cons, List.not_mem_nil, or_false] at hc hd
  rcases hc with rfl | rfl | rfl | rfl | rfl
  all_goals rcases hd with rfl | rfl | rfl | rfl | rfl
  all_goals simp [entity] at h ⊢

theorem entity_append_inj {c d : Char} {t u : Text} (h : entity c ++ t = entity d ++ u) :
    c = d ∧ t = u := by
  have hEq : c = d := by
    by_cases hc : c ∈ specials <;> by_cases hd : d ∈ specials
    · exact entity_prefix_inj hc hd ⟨t, h⟩
    · obtain ⟨name, hName, -⟩ := exists_entity_eq hc
      rw [hName, entity_of_not_mem hd] at h
      obtain ⟨rfl, -⟩ := List.cons.inj h
      exact absurd (by decide) hd
    · obtain ⟨name, hName, -⟩ := exists_entity_eq hd
      rw [hName, entity_of_not_mem hc] at h
      obtain ⟨rfl, -⟩ := List.cons.inj h
      exact absurd (by decide) hc
    · rw [entity_of_not_mem hc, entity_of_not_mem hd] at h
      exact (List.cons.inj h).1
  subst hEq
  exact ⟨rfl, List.append_cancel_left h⟩

/-- The text with the entities of the characters in `escaped` only. -/
def escapeOnly (escaped t : Text) : Text := t.flatMap fun c => if c ∈ escaped then entity c else [c]

theorem escapeOnly_specials (t : Text) : escapeOnly specials t = escape t := by
  rw [escape_eq_flatMap, escapeOnly]
  congr 1
  funext c
  split
  · rfl
  · next h => exact (entity_of_not_mem h).symm

theorem escapeOnly_nil (t : Text) : escapeOnly [] t = t := by
  simp [escapeOnly]

/-- Putting `c` back leaves the other entities alone, as long as every ampersand of `t` is
still escaped. -/
theorem replaceAll_escapeOnly {c : Char} {escaped : Text} (hSpecial : c :: escaped ⊆ specials)
    (hAmpersand : '&' ∈ c :: escaped) (hNew : c ∉ escaped) (t : Text) :
    Text.replaceAll (entity c) [c] (escapeOnly (c :: escaped) t) = escapeOnly escaped t := by
  have hc : c ∈ specials := hSpecial List.mem_cons_self
  obtain ⟨name, hName, -⟩ := exists_entity_eq hc
  induction t with
  | nil => exact Text.replaceAll_nil
  | cons d t ih =>
    have hSplit : ∀ set, escapeOnly set (d :: t) =
        (if d ∈ set then entity d else [d]) ++ escapeOnly set t := fun _ => List.flatMap_cons
    rw [hSplit, hSplit, ← ih]
    -- `d` is put back, or stays escaped, or was never escaped and is no ampersand
    by_cases hdc : d = c
    · subst hdc
      rw [if_pos List.mem_cons_self, if_neg hNew, Text.replaceAll_append (entity_ne_nil d)]
    · by_cases hd : d ∈ escaped
      · obtain ⟨other, hOther, hPlain⟩ := exists_entity_eq (hSpecial (List.mem_cons_of_mem c hd))
        have hPrefix : ¬ entity c <+: entity d ++ escapeOnly (c :: escaped) t := fun hPrefix =>
          hdc (entity_prefix_inj hc (hSpecial (List.mem_cons_of_mem c hd)) hPrefix).symm
        rw [if_pos (List.mem_cons_of_mem c hd), if_pos hd]
        rw [hOther, List.cons_append] at hPrefix ⊢
        rw [Text.replaceAll_cons_of_not_prefix hPrefix, hName,
          Text.replaceAll_append_of_not_mem (hPlain '&' (by decide)), List.cons_append]
      · have hNot : d ∉ c :: escaped := List.not_mem_cons_of_ne_of_not_mem hdc hd
        have hPlain : '&' ∉ [d] := by
          intro h
          rw [List.mem_singleton] at h
          exact hNot (h ▸ hAmpersand)
        rw [if_neg hNot, if_neg hd, hName, Text.replaceAll_append_of_not_mem hPlain]

/-- Replaces the entities of the characters in `order`, one after the other over the whole
text. -/
def unescapeIn (order t : Text) : Text :=
  order.foldl (fun t c => Text.replaceAll (entity c) [c] t) t

theorem unescape_eq_unescapeIn (t : Text) : unescape t = unescapeIn specials t := by
  rw [unescape, entities_eq, List.foldl_map]
  rfl

/-- In whatever order the entities are read, they give the text back if the one of the
ampersand comes last. -/
theorem unescapeIn_escapeOnly {escaped : Text} (hSpecial : escaped ⊆ specials)
    (hNodup : escaped.Nodup) (hLast : escaped.getLast? = some '&') (t : Text) :
    unescapeIn escaped (escapeOnly escaped t) = t := by
  induction escaped with
  | nil => cases hLast
  | cons c escaped ih =>
    obtain ⟨hNew, hNodup⟩ := List.nodup_cons.mp hNodup
    rw [unescapeIn, List.foldl_cons,
      replaceAll_escapeOnly hSpecial (List.mem_of_getLast? hLast) hNew]
    cases escaped with
    | nil => exact escapeOnly_nil t
    | cons d escaped =>
      rw [List.getLast?_cons_cons] at hLast
      exact ih (List.subset_of_cons_subset hSpecial) hNodup hLast

theorem escapeOnly_of_perm {escaped : Text} (h : escaped.Perm specials) (t : Text) :
    escapeOnly escaped t = escape t := by
  rw [← escapeOnly_specials]
  simp only [escapeOnly, h.mem_iff]

theorem unescapeIn_escape {order : Text} (h : order.Perm specials)
    (hLast : order.getLast? = some '&') (t : Text) : unescapeIn order (escape t) = t := by
  rw [← escapeOnly_of_perm h]
  exact unescapeIn_escapeOnly h.subset (h.nodup_iff.mpr (by decide)) hLast t

theorem unescape_escape (t : Text) : unescape (escape t) = t := by
  rw [unescape_eq_unescapeIn]
  exact unescapeIn_escape (List.Perm.refl specials) rfl t

theorem escape_injective : Function.Injective escape :=
  Function.LeftInverse.injective unescape_escape

/-- The text has none of the special characters but ampersands, and each of these starts
an entity. -/
structure IsEscaped (t : Text) : Prop where
  plain : '<' ∉ t ∧ '>' ∉ t ∧ '"' ∉ t ∧ '\'' ∉ t
  entities : ∀ before after, t = before ++ '&' :: after →
    ∃ e ∈ entities, e.1 <+: '&' :: after

theorem eq_ampersand_of_mem_entity {c d : Char} (h : c ∈ entity d) (hc : c ∈ specials) :
    c = '&' := by
  by_cases hd : d ∈ specials
  · obtain ⟨name, hName, hPlain⟩ := exists_entity_eq hd
    rw [hName] at h
    exact (List.mem_cons.mp h).resolve_right (hPlain c hc)
  · rw [entity_of_not_mem hd, List.mem_singleton] at h
    exact absurd (h ▸ hc) hd

theorem entity_eq_of_append {d : Char} {before after : Text}
    (h : entity d = before ++ '&' :: after) : before = [] ∧ d ∈ specials := by
  by_cases hd : d ∈ specials
  · obtain ⟨name, hName, hPlain⟩ := exists_entity_eq hd
    cases before with
    | nil => exact ⟨rfl, hd⟩
    | cons c before =>
      rw [hName, List.cons_append] at h
      obtain ⟨-, rfl⟩ := List.cons.inj h
      exact absurd (List.mem_append_right before List.mem_cons_self) (hPlain '&' (by decide))
  · rw [entity_of_not_mem hd] at h
    cases before with
    | nil =>
      obtain ⟨rfl, -⟩ := List.cons.inj h
      exact absurd (by decide) hd
    | cons c before => simp at h

theorem not_mem_escape {c : Char} (hc : c ∈ specials) (hne : c ≠ '&') (t : Text) :
    c ∉ escape t := by
  intro h
  rw [escape_eq_flatMap, List.mem_flatMap] at h
  obtain ⟨d, -, hEntity⟩ := h
  exact hne (eq_ampersand_of_mem_entity hEntity hc)

theorem exists_entity_prefix_of_escape {t before after : Text}
    (h : escape t = before ++ '&' :: after) : ∃ c ∈ specials, entity c <+: '&' :: after := by
  induction t generalizing before with
  | nil => simp at h
  | cons d t ih =>
    rw [escape_cons] at h
    rcases List.append_eq_append_iff.mp h with ⟨w, -, hRest⟩ | ⟨w, hEntity, hRest⟩
    · exact ih hRest
    · cases w with
      | nil => exact @ih [] hRest.symm
      | cons c w =>
        obtain ⟨rfl, rfl⟩ := List.cons.inj hRest
        obtain ⟨rfl, hd⟩ := entity_eq_of_append hEntity
        exact ⟨d, hd, escape t, by rw [hEntity]; rfl⟩

theorem isEscaped_escape (t : Text) : IsEscaped (escape t) where
  plain := ⟨not_mem_escape (by decide) (by decide) t, not_mem_escape (by decide) (by decide) t,
    not_mem_escape (by decide) (by decide) t, not_mem_escape (by decide) (by decide) t⟩
  entities := by
    intro before after h
    obtain ⟨c, hc, hPrefix⟩ := exists_entity_prefix_of_escape h
    exact ⟨(entity c, c), entities_eq ▸ List.mem_map_of_mem hc, hPrefix⟩

end Markup

end MarkdownEditor
