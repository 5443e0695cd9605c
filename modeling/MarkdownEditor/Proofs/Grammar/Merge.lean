import Mathlib.Data.List.Chain
import MarkdownEditor.Grammar.Basic

/-!
# Merged tokens

Tokens give every character of their text a class. Merging keeps these classes and puts
the characters into as few tokens as possible. So the characters with their classes decide
the merged tokens: if the characters of one list come first among those of another, so do
the tokens, only that the last one may go on.
-/

namespace MarkdownEditor.Token

set_option autoImplicit false

open Text

/-- The characters of the tokens, each with its class. -/
def cells (ts : List Token) : List (Option Text × Char) :=
  ts.flatMap fun t => t.text.map (Prod.mk t.cls)

/-- The class of the token that covers byte `n`. -/
def classAt? : List Token → Nat → Option (Option Text)
  | [], _ => none
  | t :: ts, n => if n < t.text.byteSize then some t.cls else classAt? ts (n - t.text.byteSize)

/-- No token is empty and no two neighbours have the same class. -/
structure IsMerged (ts : List Token) : Prop where
  nonempty : ∀ t ∈ ts, t.text ≠ []
  distinct : ts.IsChain fun t u => t.cls ≠ u.cls

/-- The tokens `us` are `ts` and what covers `more` after them. The last token of `ts` may go
on into it. -/
inductive Continues (more : Text) : List Token → List Token → Prop where
  | nothing {us : List Token} (h : source us = more) : Continues more [] us
  | last {front rest : List Token} {t : Token} {text : Text} (h : text ++ source rest = more) :
      Continues more (front ++ [t]) (front ++ ⟨t.cls, t.text ++ text⟩ :: rest)

variable {t : Token} {ts us : List Token}

theorem cells_cons (t : Token) (ts : List Token) :
    cells (t :: ts) = t.text.map (Prod.mk t.cls) ++ cells ts := rfl

theorem cells_append (ts us : List Token) : cells (ts ++ us) = cells ts ++ cells us :=
  List.flatMap_append

theorem source_cons (t : Token) (ts : List Token) : source (t :: ts) = t.text ++ source ts := rfl

theorem source_append (ts us : List Token) : source (ts ++ us) = source ts ++ source us :=
  List.flatMap_append

theorem map_snd_cells (ts : List Token) : (cells ts).map Prod.snd = source ts := by
  induction ts with
  | nil => rfl
  | cons t ts ih =>
    rw [cells_cons, source_cons, List.map_append, ih, List.map_map]
    exact congrArg (· ++ source ts) (List.map_id t.text)

/-- All that `consMerged` can do. -/
theorem consMerged_cases (t : Token) (ts : List Token) :
    (t.text = [] ∧ consMerged t ts = ts) ∨
    (t.text ≠ [] ∧ (∀ u ∈ ts.head?, t.cls ≠ u.cls) ∧ consMerged t ts = t :: ts) ∨
    ∃ u rest, t.text ≠ [] ∧ ts = u :: rest ∧ t.cls = u.cls ∧
      consMerged t ts = ⟨u.cls, t.text ++ u.text⟩ :: rest := by
  unfold consMerged
  split
  · next hEmpty => exact .inl ⟨List.isEmpty_iff.mp hEmpty, rfl⟩
  · next hText =>
    have hText' : t.text ≠ [] := fun h => hText (List.isEmpty_iff.mpr h)
    refine .inr ?_
    cases ts with
    | nil => exact .inl ⟨hText', nofun, rfl⟩
    | cons u rest =>
      by_cases hClass : t.cls = u.cls
      · refine .inr ⟨u, rest, hText', rfl, hClass, ?_⟩
        rw [← hClass]
        exact if_pos hClass
      · refine .inl ⟨hText', ?_, if_neg hClass⟩
        intro v hv
        cases hv
        exact hClass

theorem cells_consMerged (t : Token) (ts : List Token) :
    cells (consMerged t ts) = cells (t :: ts) := by
  rcases consMerged_cases t ts with ⟨hEmpty, h⟩ | ⟨-, -, h⟩ | ⟨u, rest, -, rfl, hClass, h⟩
  · rw [h, cells_cons, hEmpty]
    rfl
  · rw [h]
  · rw [h, cells_cons, cells_cons, cells_cons, hClass, List.map_append, List.append_assoc]

theorem cells_merged (ts : List Token) : cells (merged ts) = cells ts := by
  induction ts with
  | nil => rfl
  | cons t ts ih =>
    change cells (consMerged t (merged ts)) = _
    rw [cells_consMerged, cells_cons, ih, cells_cons]

theorem source_merged (ts : List Token) : source (merged ts) = source ts := by
  rw [← map_snd_cells, cells_merged, map_snd_cells]

theorem isMerged_nil : IsMerged [] := ⟨nofun, .nil⟩

theorem IsMerged.consMerged (h : IsMerged ts) (t : Token) : IsMerged (consMerged t ts) := by
  rcases consMerged_cases t ts with ⟨-, hEq⟩ | ⟨hText, hHead, hEq⟩ | ⟨u, rest, hText, rfl, -, hEq⟩
  · rw [hEq]
    exact h
  · rw [hEq]
    refine ⟨?_, List.isChain_cons.mpr ⟨hHead, h.distinct⟩⟩
    intro v hv
    rcases List.mem_cons.mp hv with rfl | hv
    · exact hText
    · exact h.nonempty v hv
  · rw [hEq]
    obtain ⟨hHead, hRest⟩ := List.isChain_cons.mp h.distinct
    refine ⟨?_, List.isChain_cons.mpr ⟨hHead, hRest⟩⟩
    intro v hv
    rcases List.mem_cons.mp hv with rfl | hv
    · exact List.append_ne_nil_of_left_ne_nil hText u.text
    · exact h.nonempty v (List.mem_cons_of_mem u hv)

theorem isMerged_merged (ts : List Token) : IsMerged (merged ts) := by
  induction ts with
  | nil => exact isMerged_nil
  | cons t ts ih => exact ih.consMerged t

theorem IsMerged.tail (h : IsMerged (t :: ts)) : IsMerged ts :=
  ⟨fun u hu => h.nonempty u (List.mem_cons_of_mem t hu), (List.isChain_cons.mp h.distinct).2⟩

/-- After a token of a merged list, its class does not go on. -/
theorem IsMerged.eq_nil_of_cells (h : IsMerged (t :: ts)) {text : Text} (hText : text ≠ [])
    {more rest : List (Option Text × Char)}
    (hCells : cells ts ++ more = text.map (Prod.mk t.cls) ++ rest) : ts = [] := by
  cases ts with
  | nil => rfl
  | cons u ts =>
    obtain ⟨c, text, rfl⟩ := List.exists_cons_of_ne_nil hText
    obtain ⟨d, text', hNext⟩ := List.exists_cons_of_ne_nil (h.tail.nonempty u List.mem_cons_self)
    rw [cells_cons, hNext] at hCells
    have hClass : u.cls = t.cls := congrArg Prod.fst (List.cons.inj hCells).1
    exact absurd hClass.symm ((List.isChain_cons.mp h.distinct).1 u rfl)

theorem IsMerged.first_cases {u : Token} (hts : IsMerged (t :: ts)) (hus : IsMerged (u :: us))
    {more : List (Option Text × Char)} (hCells : cells (u :: us) = cells (t :: ts) ++ more) :
    (u = t ∧ cells us = cells ts ++ more) ∨
    (ts = [] ∧ ∃ w, u = ⟨t.cls, t.text ++ w⟩ ∧ more = w.map (Prod.mk t.cls) ++ cells us) := by
  obtain ⟨c, text, hc⟩ := List.exists_cons_of_ne_nil (hts.nonempty t List.mem_cons_self)
  obtain ⟨d, text', hd⟩ := List.exists_cons_of_ne_nil (hus.nonempty u List.mem_cons_self)
  have hClass : u.cls = t.cls := by
    rw [cells_cons, cells_cons, hc, hd] at hCells
    exact congrArg Prod.fst (List.cons.inj hCells).1
  have hTexts : u.text ++ source us = t.text ++ (source ts ++ more.map Prod.snd) := by
    rw [← source_cons, ← map_snd_cells, hCells, List.map_append, map_snd_cells, source_cons,
      List.append_assoc]
  rw [cells_cons, cells_cons, List.append_assoc, hClass] at hCells
  obtain ⟨cls, uText⟩ := u
  obtain rfl : cls = t.cls := hClass
  -- one of the two texts is the other one or goes on behind it
  rcases List.append_eq_append_iff.mp hTexts with ⟨w, hLonger, -⟩ | ⟨w, rfl, -⟩
  · have hRest : cells us = w.map (Prod.mk t.cls) ++ (cells ts ++ more) := by
      rw [hLonger, List.map_append, List.append_assoc] at hCells
      exact List.append_cancel_left hCells
    -- what `t` has more than the other token would be the start of another token of its class
    have hw : w = [] := by
      by_cases hw : w = []
      · exact hw
      · rw [← List.append_nil (cells us)] at hRest
        rw [hus.eq_nil_of_cells hw hRest] at hRest
        exact List.map_eq_nil_iff.mp (List.append_eq_nil_iff.mp hRest.symm).1
    subst hw
    rw [List.append_nil] at hLonger
    obtain rfl : uText = t.text := hLonger.symm
    exact .inl ⟨rfl, hRest⟩
  · have hRest : w.map (Prod.mk t.cls) ++ cells us = cells ts ++ more := by
      rw [List.map_append, List.append_assoc] at hCells
      exact List.append_cancel_left hCells
    by_cases hw : w = []
    · subst hw
      exact .inl ⟨by rw [List.append_nil], hRest⟩
    · obtain rfl := hts.eq_nil_of_cells hw hRest.symm
      exact .inr ⟨rfl, w, rfl, hRest.symm⟩

theorem Continues.cons {more : Text} (h : Continues more ts us) (t : Token) :
    Continues more (t :: ts) (t :: us) := by
  cases h with
  | nothing h =>
    have hLast : Continues more ([] ++ [t]) ([] ++ ⟨t.cls, t.text ++ []⟩ :: us) := .last h
    rwa [List.append_nil] at hLast
  | @last front rest u text h => exact @last more (t :: front) rest u text h

/-- Merged tokens follow their characters: more characters can only make the last token longer. -/
theorem IsMerged.continues (hts : IsMerged ts) (hus : IsMerged us)
    {more : List (Option Text × Char)} (hCells : cells us = cells ts ++ more) :
    Continues (more.map Prod.snd) ts us := by
  induction ts generalizing us with
  | nil =>
    refine .nothing ?_
    rw [← map_snd_cells, hCells]
    rfl
  | cons t ts ih =>
    cases us with
    | nil =>
      obtain ⟨c, text, hc⟩ := List.exists_cons_of_ne_nil (hts.nonempty t List.mem_cons_self)
      rw [cells_cons, hc] at hCells
      cases hCells
    | cons u us =>
      rcases hts.first_cases hus hCells with ⟨rfl, hRest⟩ | ⟨rfl, w, rfl, hMore⟩
      · exact (ih hts.tail hus.tail hRest).cons u
      · refine @Continues.last _ [] us t w ?_
        rw [hMore, List.map_append, map_snd_cells, List.map_map]
        exact congrArg (· ++ source us) (List.map_id w).symm

theorem classAt?_cons_of_lt {n : Nat} (h : n < t.text.byteSize) :
    classAt? (t :: ts) n = some t.cls := if_pos h

theorem classAt?_cons_add (t : Token) (ts : List Token) (n : Nat) :
    classAt? (t :: ts) (t.text.byteSize + n) = classAt? ts n := by
  rw [classAt?, if_neg (by omega), Nat.add_sub_cancel_left]

theorem classAt?_append_of_lt {n : Nat} (h : n < byteSize (source ts)) :
    classAt? (ts ++ us) n = classAt? ts n := by
  induction ts generalizing n with
  | nil => exact absurd h (Nat.not_lt_zero n)
  | cons t ts ih =>
    rw [List.cons_append]
    rcases Nat.lt_or_ge n t.text.byteSize with hn | hn
    · rw [classAt?_cons_of_lt hn, classAt?_cons_of_lt hn]
    · obtain ⟨m, rfl⟩ := Nat.exists_eq_add_of_le hn
      rw [source_cons, byteSize_append] at h
      rw [classAt?_cons_add, classAt?_cons_add, ih (by omega)]

theorem classAt?_append_add (ts us : List Token) (n : Nat) :
    classAt? (ts ++ us) (byteSize (source ts) + n) = classAt? us n := by
  induction ts with
  | nil =>
    rw [source, List.flatMap_nil, byteSize_nil, Nat.zero_add]
    rfl
  | cons t ts ih =>
    rw [source_cons, byteSize_append, Nat.add_assoc, List.cons_append, classAt?_cons_add, ih]

theorem classAt?_consMerged (t : Token) (ts : List Token) (n : Nat) :
    classAt? (consMerged t ts) n = classAt? (t :: ts) n := by
  rcases consMerged_cases t ts with ⟨hEmpty, h⟩ | ⟨-, -, h⟩ | ⟨u, rest, -, rfl, hClass, h⟩
  · have hStart := classAt?_cons_add t ts n
    rw [hEmpty, byteSize_nil, Nat.zero_add] at hStart
    rw [h, hStart]
  · rw [h]
  · rw [h]
    rcases Nat.lt_or_ge n t.text.byteSize with hn | hn
    · have hLonger : n < byteSize (t.text ++ u.text) := by
        rw [byteSize_append]
        omega
      rw [classAt?_cons_of_lt hn, classAt?_cons_of_lt hLonger, hClass]
    · obtain ⟨m, rfl⟩ := Nat.exists_eq_add_of_le hn
      rw [classAt?_cons_add, classAt?, classAt?, byteSize_append, Nat.sub_add_eq,
        Nat.add_sub_cancel_left]
      simp only [Nat.add_lt_add_iff_left]

theorem classAt?_merged (ts : List Token) (n : Nat) : classAt? (merged ts) n = classAt? ts n := by
  induction ts generalizing n with
  | nil => rfl
  | cons t ts ih =>
    change classAt? (consMerged t (merged ts)) n = _
    rw [classAt?_consMerged, classAt?, classAt?, ih]

/-- What goes on after `ts` changes no class in `ts`. -/
theorem Continues.classAt?_eq {more : Text} (h : Continues more ts us) {n : Nat}
    (hn : n < byteSize (source ts)) : classAt? us n = classAt? ts n := by
  cases h with
  | nothing => exact absurd hn (Nat.not_lt_zero n)
  | @last front rest t text =>
    rcases Nat.lt_or_ge n (byteSize (source front)) with hFront | hFront
    · rw [classAt?_append_of_lt hFront, classAt?_append_of_lt hFront]
    · obtain ⟨m, rfl⟩ := Nat.exists_eq_add_of_le hFront
      rw [source_append, byteSize_append] at hn
      have hm : m < t.text.byteSize := by
        have hSingle : source [t] = t.text := List.append_nil t.text
        rw [hSingle] at hn
        omega
      have hLonger : m < byteSize (t.text ++ text) := by
        rw [byteSize_append]
        omega
      rw [classAt?_append_add, classAt?_append_add, classAt?_cons_of_lt hm,
        classAt?_cons_of_lt hLonger]

end MarkdownEditor.Token
