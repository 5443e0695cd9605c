import Mathlib.Data.Finset.Card
import Mathlib.Data.Finset.Dedup
import MarkdownEditor.Language.Alias

/-!
# Which alias counts

Several aliases may come down to one key once they are trimmed and in lower case. The
built-in alias of a key counts before all others, and of the configured ones the first that
has anything on both sides. All of this is said of the list of configured aliases as it
stands; the table that is built from it one alias at a time is shown to agree.
-/

namespace MarkdownEditor.AliasTable

set_option autoImplicit false

/-- Something stands on both sides of the configured alias. -/
def isUsable (e : Text × Text) : Bool := !e.1.isBlank && !e.2.isBlank

def keyOf (e : Text × Text) : Text := e.1.trim.lowercase

def targetOf (e : Text × Text) : Text := e.2.trim.lowercase

def isBuiltinKey (key : Text) : Bool := builtinEntries.any fun b => b.1 == key

/-- The keys that the configured aliases bring in, each as often as it occurs. -/
def ownKeys (extra : List (Text × Text)) : List Text :=
  ((extra.filter isUsable).map keyOf).filter fun key => !isBuiltinKey key

/-- The key is built in, or one of the earlier aliases has it. -/
def isTaken (earlier : List (Text × Text)) (key : Text) : Bool :=
  isBuiltinKey key || earlier.any fun e => isUsable e && keyOf e == key

/-- The keys of the usable aliases that come too late, in order. -/
def lateKeys (extra : List (Text × Text)) : List Text :=
  (extra.zipIdx.filter fun x => isUsable x.1 && isTaken (extra.take x.2) (keyOf x.1)).map
    fun x => keyOf x.1

/-- The first of the configured aliases that has this key and anything on the other side. -/
def firstWithKey? (extra : List (Text × Text)) (key : Text) : Option (Text × Text) :=
  extra.find? fun e => keyOf e == key && !e.2.isBlank

/-- In the table the built-in aliases come first, then the configured ones in their order, and
there is a collision for each one that came too late. -/
structure IsFirstWins (extra : List (Text × Text)) (table : AliasTable)
    (collisions : List Collision) : Prop where
  resolve_nil : table.resolve [] = none
  resolve_builtin : ∀ (tag target : Text), tag ≠ [] → (tag.lowercase, target) ∈ builtinEntries →
    table.resolve tag = some target
  resolve_first : ∀ (tag : Text) (e : Text × Text), tag ≠ [] →
    isBuiltinKey tag.lowercase = false → firstWithKey? extra tag.lowercase = some e →
    table.resolve tag = some (targetOf e)
  resolve_unknown : ∀ tag : Text, tag ≠ [] → isBuiltinKey tag.lowercase = false →
    firstWithKey? extra tag.lowercase = none → table.resolve tag = some tag.lowercase
  entered : ∀ (before : List (Text × Text)) (e : Text × Text) (after : List (Text × Text)),
    extra = before ++ e :: after → isUsable e = true → isTaken before (keyOf e) = false →
    table.get? (keyOf e) = some (targetOf e)
  size : table.size = builtinEntries.length + (ownKeys extra).toFinset.card
  collisions : collisions.map Collision.key = lateKeys extra

theorem isEmpty_lowercase_trim (t : Text) : t.trim.lowercase.isEmpty = t.isBlank := by
  rw [Bool.eq_iff_iff, List.isEmpty_iff, Text.lowercase_eq_nil_iff, Text.trim_eq_nil_iff]

section Add

variable {table : AliasTable} {e : Text × Text}

theorem add_of_not_usable (h : isUsable e = false) : table.add e.1 e.2 = (table, []) := by
  simp only [isUsable, Bool.and_eq_false_iff, Bool.not_eq_false'] at h
  unfold add
  rw [if_pos]
  rw [isEmpty_lowercase_trim, isEmpty_lowercase_trim, Bool.or_eq_true]
  exact h

theorem add_of_usable (h : isUsable e = true) : table.add e.1 e.2 =
    if table.contains (keyOf e) then (table, [⟨keyOf e⟩])
    else (table.insert (keyOf e) (targetOf e), []) := by
  simp only [isUsable, Bool.and_eq_true, Bool.not_eq_true'] at h
  unfold add
  rw [if_neg]
  · rfl
  · rw [isEmpty_lowercase_trim, isEmpty_lowercase_trim, h.1, h.2]
    decide

end Add

theorem extend_concat (table : AliasTable) (extra : List (Text × Text)) (e : Text × Text) :
    table.extend (extra ++ [e]) = (((table.extend extra).1.add e.1 e.2).1,
      (table.extend extra).2 ++ ((table.extend extra).1.add e.1 e.2).2) := by
  induction extra generalizing table with
  | nil => simp [extend]
  | cons first rest ih =>
    simp only [List.cons_append, extend, ih, List.append_assoc]

theorem perm_builtin : builtin.entries.Perm builtinEntries := by
  decide

theorem get?_builtin_of_mem {key target : Text} (h : (key, target) ∈ builtinEntries) :
    builtin.get? key = some target := by
  have hAll : ∀ b ∈ builtinEntries, builtin.get? b.1 = some b.2 := by decide
  exact hAll _ h

theorem get?_builtin_of_not {key : Text} (h : isBuiltinKey key = false) :
    builtin.get? key = none := by
  apply (builtin.get?_eq_none_iff key).mpr
  intro b hb hKey
  exact List.any_eq_false.mp h b (perm_builtin.mem_iff.mp hb) (beq_iff_eq.mpr hKey)

theorem contains_builtin (key : Text) : builtin.contains key = isBuiltinKey key := by
  cases h : isBuiltinKey key with
  | false => rw [Dictionary.contains, get?_builtin_of_not h]; rfl
  | true =>
    obtain ⟨b, hb, hKey⟩ := List.any_eq_true.mp h
    obtain rfl := eq_of_beq hKey
    rw [Dictionary.contains, get?_builtin_of_mem hb]
    rfl

theorem withExtra_concat (extra : List (Text × Text)) (e : Text × Text) :
    withExtra (extra ++ [e]) = (((withExtra extra).1.add e.1 e.2).1,
      (withExtra extra).2 ++ ((withExtra extra).1.add e.1 e.2).2) :=
  extend_concat builtin extra e

theorem get?_add (table : AliasTable) (e : Text × Text) (key : Text) :
    (table.add e.1 e.2).1.get? key =
      (table.get? key).or (if isUsable e && keyOf e == key then some (targetOf e) else none) := by
  cases hUsable : isUsable e with
  | false => simp [add_of_not_usable hUsable]
  | true =>
    rw [add_of_usable hUsable, Bool.true_and]
    split
    · next hContains =>
      obtain ⟨target, hTarget⟩ := Option.isSome_iff_exists.mp hContains
      by_cases hKey : keyOf e = key
      · rw [← hKey, hTarget, Option.some_or]
      · simp [hKey]
    · next hNew =>
      rw [Dictionary.get?_insert]
      by_cases hKey : keyOf e = key
      · have hNone : table.get? (keyOf e) = none := by
          simpa [Dictionary.contains] using hNew
        simp [← hKey, hNone]
      · simp [hKey]

theorem get?_withExtra (extra : List (Text × Text)) (key : Text) :
    (withExtra extra).1.get? key = (builtin.get? key).or
      ((extra.find? fun e => isUsable e && keyOf e == key).map targetOf) := by
  induction extra using List.reverseRecOn with
  | nil => simp [withExtra, extend]
  | append_singleton extra e ih =>
    rw [withExtra_concat, get?_add, ih, List.find?_append, Option.map_or, Option.or_assoc]
    congr 2
    cases h : isUsable e && keyOf e == key <;> simp [h]

theorem contains_withExtra (extra : List (Text × Text)) (key : Text) :
    (withExtra extra).1.contains key = isTaken extra key := by
  rw [Dictionary.contains, get?_withExtra, Option.isSome_or, Option.isSome_map,
    List.isSome_find?, isTaken, ← contains_builtin]
  rfl

theorem ownKeys_concat (extra : List (Text × Text)) (e : Text × Text) :
    ownKeys (extra ++ [e]) = ownKeys extra ++
      if isUsable e && !isBuiltinKey (keyOf e) then [keyOf e] else [] := by
  simp only [ownKeys, List.filter_append, List.map_append]
  congr 1
  cases hUsable : isUsable e <;> cases hKey : isBuiltinKey (keyOf e) <;> simp [hUsable, hKey]

theorem mem_ownKeys_iff (extra : List (Text × Text)) (key : Text) : key ∈ ownKeys extra ↔
    isBuiltinKey key = false ∧ isTaken extra key = true := by
  simp only [ownKeys, isTaken, List.mem_filter, List.mem_map, Bool.not_eq_true', Bool.or_eq_true,
    List.any_eq_true, Bool.and_eq_true, beq_iff_eq, and_assoc]
  rw [and_comm]
  apply and_congr_right
  intro hKey
  simp [hKey]

theorem lateKeys_concat (extra : List (Text × Text)) (e : Text × Text) :
    lateKeys (extra ++ [e]) = lateKeys extra ++
      if isUsable e && isTaken extra (keyOf e) then [keyOf e] else [] := by
  have hEarlier : ∀ x ∈ extra.zipIdx,
      (isUsable x.1 && isTaken ((extra ++ [e]).take x.2) (keyOf x.1)) =
        (isUsable x.1 && isTaken (extra.take x.2) (keyOf x.1)) := by
    intro x hx
    have hIndex := List.snd_lt_of_mem_zipIdx hx
    rw [List.take_append_of_le_length (by omega)]
  simp only [lateKeys, List.zipIdx_append, List.filter_append, List.map_append]
  rw [List.filter_congr hEarlier]
  congr 1
  cases hLate : isUsable e && isTaken extra (keyOf e) <;> simp [hLate]

/-- A key that comes again is not counted again. -/
theorem card_ownKeys_concat {extra : List (Text × Text)} {e : Text × Text}
    (hUsable : isUsable e = true) : (ownKeys (extra ++ [e])).toFinset.card =
      (ownKeys extra).toFinset.card + if isTaken extra (keyOf e) then 0 else 1 := by
  rw [ownKeys_concat, hUsable, Bool.true_and]
  cases hBuiltin : isBuiltinKey (keyOf e) with
  | true => simp [isTaken, hBuiltin]
  | false =>
    have hMem : keyOf e ∈ (ownKeys extra).toFinset ↔ isTaken extra (keyOf e) = true := by
      rw [List.mem_toFinset, mem_ownKeys_iff, hBuiltin]
      exact and_iff_right rfl
    have hInsert : (ownKeys extra ++ [keyOf e]).toFinset =
        insert (keyOf e) (ownKeys extra).toFinset := by
      simp
    cases hTaken : isTaken extra (keyOf e) with
    | true =>
      rw [Bool.not_false, if_pos rfl, hInsert, Finset.insert_eq_of_mem (hMem.mpr hTaken)]
      rfl
    | false =>
      have hNew : keyOf e ∉ (ownKeys extra).toFinset := by
        rw [hMem, hTaken]
        exact Bool.false_ne_true
      rw [Bool.not_false, if_pos rfl, hInsert, Finset.card_insert_of_notMem hNew]
      rfl

theorem size_withExtra (extra : List (Text × Text)) :
    (withExtra extra).1.size = builtinEntries.length + (ownKeys extra).toFinset.card := by
  induction extra using List.reverseRecOn with
  | nil => exact perm_builtin.length_eq
  | append_singleton extra e ih =>
    rw [withExtra_concat]
    cases hUsable : isUsable e with
    | false =>
      rw [add_of_not_usable hUsable, ownKeys_concat, hUsable, Bool.false_and]
      simpa using ih
    | true =>
      have hContains := contains_withExtra extra (keyOf e)
      rw [add_of_usable hUsable, card_ownKeys_concat hUsable, ← Nat.add_assoc, ← ih, hContains]
      split
      · rfl
      · next hNew =>
        apply Dictionary.size_insert
        rw [← hContains] at hNew
        simpa [Dictionary.contains] using hNew

theorem collisions_withExtra (extra : List (Text × Text)) :
    (withExtra extra).2.map Collision.key = lateKeys extra := by
  induction extra using List.reverseRecOn with
  | nil => rfl
  | append_singleton extra e ih =>
    rw [withExtra_concat, lateKeys_concat, List.map_append, ih]
    congr 1
    cases hUsable : isUsable e with
    | false => simp [add_of_not_usable hUsable]
    | true =>
      rw [add_of_usable hUsable, contains_withExtra, Bool.true_and]
      split <;> rfl

theorem get?_withExtra_of_first {before after : List (Text × Text)} {e : Text × Text}
    (hUsable : isUsable e = true) (hNew : isTaken before (keyOf e) = false) :
    (withExtra (before ++ e :: after)).1.get? (keyOf e) = some (targetOf e) := by
  obtain ⟨hBuiltin, hEarlier⟩ := Bool.or_eq_false_iff.mp hNew
  have hNone : (before.find? fun b => isUsable b && keyOf b == keyOf e) = none := by
    apply List.find?_eq_none.mpr
    exact List.any_eq_false.mp hEarlier
  rw [get?_withExtra, get?_builtin_of_not hBuiltin, List.find?_append, hNone, Option.none_or,
    Option.none_or, List.find?_cons_of_pos]
  · rfl
  · rw [hUsable, Bool.true_and]
    exact beq_self_eq_true _

theorem resolve_eq {tag : Text} (table : AliasTable) (h : tag ≠ []) :
    table.resolve tag = some ((table.get? tag.lowercase).getD tag.lowercase) := by
  rw [resolve, List.isEmpty_eq_false_iff.mpr h]
  rfl

/-- A key that is not empty can only come from an alias with something on its left side. -/
theorem find?_usable_eq {key : Text} (h : key ≠ []) (extra : List (Text × Text)) :
    (extra.find? fun e => isUsable e && keyOf e == key) = firstWithKey? extra key := by
  unfold firstWithKey?
  congr 1
  funext e
  by_cases hKey : keyOf e = key
  · have hFull : e.1.isBlank = false := by
      rw [← isEmpty_lowercase_trim, List.isEmpty_eq_false_iff]
      rwa [← hKey] at h
    simp [isUsable, hKey, hFull]
  · rw [beq_false_of_ne hKey, Bool.and_false, Bool.false_and]

/-- The table of the built-in aliases and any configured ones resolves every tag to the target
of the first alias that fits. -/
theorem isFirstWins_withExtra (extra : List (Text × Text)) :
    IsFirstWins extra (withExtra extra).1 (withExtra extra).2 := by
  have hKey {tag : Text} (hTag : tag ≠ []) : tag.lowercase ≠ [] :=
    mt (Text.lowercase_eq_nil_iff tag).mp hTag
  constructor
  · rfl
  · intro tag target hTag hBuiltin
    rw [resolve_eq _ hTag, get?_withExtra, get?_builtin_of_mem hBuiltin]
    rfl
  · intro tag e hTag hOther hFirst
    rw [resolve_eq _ hTag, get?_withExtra, get?_builtin_of_not hOther,
      find?_usable_eq (hKey hTag), hFirst]
    rfl
  · intro tag hTag hOther hNone
    rw [resolve_eq _ hTag, get?_withExtra, get?_builtin_of_not hOther,
      find?_usable_eq (hKey hTag), hNone]
    rfl
  · rintro before e after rfl hUsable hNew
    exact get?_withExtra_of_first hUsable hNew
  · exact size_withExtra extra
  · exact collisions_withExtra extra

example : (withExtra [("Zsh ".toList, " Bash".toList), ("JS".toList, "json".toList),
    (" ".toList, "css".toList), ("zsh".toList, "fish".toList)]).2.map Collision.key =
    ["js".toList, "zsh".toList] := by
  decide +kernel

end MarkdownEditor.AliasTable
