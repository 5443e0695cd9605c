import MarkdownEditor.Text.Basic

/-!
# Dictionaries

A dictionary maps texts to values. Its entries are kept in ascending order of
their keys, compared code point by code point, so two dictionaries with the
same bindings are equal and listing the keys needs no sorting.
-/

namespace MarkdownEditor

set_option autoImplicit false

structure Dictionary (α : Type) where
  entries : List (Text × α)
  ascending : entries.Pairwise fun a b => a.1 < b.1

namespace Dictionary

variable {α : Type}

def empty : Dictionary α := ⟨[], .nil⟩

instance : Inhabited (Dictionary α) := ⟨empty⟩

@[ext] theorem ext {d e : Dictionary α} (h : d.entries = e.entries) : d = e := by
  cases d
  cases e
  simp_all

instance [DecidableEq α] : DecidableEq (Dictionary α) := fun d e =>
  decidable_of_iff (d.entries = e.entries) ⟨ext, fun h => h ▸ rfl⟩

def insertEntry (key : Text) (value : α) : List (Text × α) → List (Text × α)
  | [] => [(key, value)]
  | entry :: rest =>
    if key < entry.1 then (key, value) :: entry :: rest
    else if key = entry.1 then (key, value) :: rest
    else entry :: insertEntry key value rest

theorem key_mem_insertEntry {key : Text} {value : α} {es : List (Text × α)} {e : Text × α}
    (h : e ∈ insertEntry key value es) : e.1 = key ∨ e ∈ es := by
  induction es with
  | nil => simp_all [insertEntry]
  | cons entry rest ih =>
    simp only [insertEntry] at h
    split at h
    · rcases List.mem_cons.mp h with rfl | h
      · exact .inl rfl
      · exact .inr h
    · split at h
      · rcases List.mem_cons.mp h with rfl | h
        · exact .inl rfl
        · exact .inr (List.mem_cons_of_mem _ h)
      · rcases List.mem_cons.mp h with rfl | h
        · exact .inr List.mem_cons_self
        · exact (ih h).imp_right (List.mem_cons_of_mem _)

theorem key_lt_of_not_lt {a b : Text} (hlt : ¬ a < b) (hne : a ≠ b) : b < a := by
  rcases List.le_iff_lt_or_eq.mp (List.not_lt.mp hlt) with h | h
  · exact h
  · exact absurd h.symm hne

theorem ascending_insertEntry (key : Text) (value : α) {es : List (Text × α)}
    (h : es.Pairwise fun a b => a.1 < b.1) :
    (insertEntry key value es).Pairwise fun a b => a.1 < b.1 := by
  induction es with
  | nil => simp [insertEntry]
  | cons entry rest ih =>
    obtain ⟨hHead, hRest⟩ := List.pairwise_cons.mp h
    simp only [insertEntry]
    split
    · next hlt =>
      refine List.pairwise_cons.mpr ⟨?_, h⟩
      intro e he
      rcases List.mem_cons.mp he with rfl | he
      · exact hlt
      · exact List.lt_trans hlt (hHead e he)
    · next hlt =>
      split
      · next heq =>
        refine List.pairwise_cons.mpr ⟨?_, hRest⟩
        intro e he
        simpa [heq] using hHead e he
      · next hne =>
        refine List.pairwise_cons.mpr ⟨?_, ih hRest⟩
        intro e he
        rcases key_mem_insertEntry he with hKey | hMem
        · rw [hKey]
          exact key_lt_of_not_lt hlt hne
        · exact hHead e hMem

/-- The dictionary with `key` bound to `value`, in place of what it was bound to. -/
def insert (d : Dictionary α) (key : Text) (value : α) : Dictionary α :=
  ⟨insertEntry key value d.entries, ascending_insertEntry key value d.ascending⟩

/-- Of two entries with one key the later one stays. -/
def ofList (entries : List (Text × α)) : Dictionary α :=
  entries.foldl (fun d e => d.insert e.1 e.2) empty

def get? (d : Dictionary α) (key : Text) : Option α :=
  (d.entries.find? fun e => e.1 == key).map Prod.snd

def contains (d : Dictionary α) (key : Text) : Bool := (d.get? key).isSome

def keys (d : Dictionary α) : List Text := d.entries.map Prod.fst

def size (d : Dictionary α) : Nat := d.entries.length

def isEmpty (d : Dictionary α) : Bool := d.entries.isEmpty

/-- The bindings that satisfy `p`. -/
def filter (p : Text → α → Bool) (d : Dictionary α) : Dictionary α :=
  ⟨d.entries.filter fun e => p e.1 e.2, d.ascending.filter _⟩

theorem get?_insert (d : Dictionary α) (key other : Text) (value : α) :
    (d.insert key value).get? other = if key = other then some value else d.get? other := by
  obtain ⟨es, h⟩ := d
  simp only [get?, insert]
  induction es with
  | nil => by_cases hk : key = other <;> simp [insertEntry, hk]
  | cons entry rest ih =>
    obtain ⟨hHead, hRest⟩ := List.pairwise_cons.mp h
    simp only [insertEntry]
    split
    · by_cases hk : key = other <;> simp [hk]
    · split
      · next heq =>
        by_cases hk : key = other
        · simp [hk]
        · simp [hk, ← heq]
      · next hne =>
        by_cases hk : key = other
        · have hEntry : entry.1 ≠ other := fun he => hne (hk.trans he.symm)
          simpa [hk, hEntry] using ih hRest
        · by_cases hEntry : entry.1 = other
          · simp [hk, hEntry]
          · simpa [hk, hEntry] using ih hRest

theorem get?_eq_none_iff (d : Dictionary α) (key : Text) :
    d.get? key = none ↔ ∀ e ∈ d.entries, e.1 ≠ key := by
  simp [get?]

theorem size_insert {d : Dictionary α} {key : Text} (h : d.get? key = none) (value : α) :
    (d.insert key value).size = d.size + 1 := by
  have hNew := (d.get?_eq_none_iff key).mp h
  simp only [size, insert]
  generalize d.entries = es at hNew
  induction es with
  | nil => rfl
  | cons entry rest ih =>
    rw [List.forall_mem_cons] at hNew
    simp only [insertEntry]
    split
    · rfl
    · rw [if_neg (Ne.symm hNew.1), List.length_cons, ih hNew.2, List.length_cons]

end Dictionary

end MarkdownEditor
