import MarkdownEditor.Proofs.Settings.Partial
import MarkdownEditor.Settings.Printer

/-!
# Reading printed settings

Settings are read back from their printed form as they were, as long as the undo limit fits
64 bits. Cleaning them, then, is all that reading does to them, and doing it twice is doing it
once.
-/

namespace MarkdownEditor

set_option autoImplicit false

namespace Dictionary

variable {α : Type}

theorem insertEntry_append {key : Text} {es : List (Text × α)} (h : ∀ e ∈ es, e.1 < key)
    (value : α) : insertEntry key value es = es ++ [(key, value)] := by
  induction es with
  | nil => rfl
  | cons e es ih =>
    have hKey : e.1 < key := h e List.mem_cons_self
    have hLater := ih fun e he => h e (List.mem_cons_of_mem _ he)
    have hEq : key ≠ e.1 := fun h => List.lt_irrefl key (h ▸ hKey)
    rw [insertEntry, if_neg (List.lt_asymm hKey), if_neg hEq, hLater, List.cons_append]

/-- Entries in the order of their keys are put behind those that are there. -/
theorem foldl_insert {d d' : Dictionary α} {es : List (Text × α)}
    (h : d'.entries = d.entries ++ es) : es.foldl (fun d e => d.insert e.1 e.2) d = d' := by
  induction es generalizing d with
  | nil => exact (ext (h.trans (List.append_nil _))).symm
  | cons e es ih =>
    -- the keys ascend, so each entry goes behind all that are there
    have hAscending := d'.ascending
    rw [h] at hAscending
    have hBefore (a : Text × α) (ha : a ∈ d.entries) : a.1 < e.1 :=
      (List.pairwise_append.mp hAscending).2.2 a ha e List.mem_cons_self
    have hInsert : (d.insert e.1 e.2).entries = d.entries ++ [e] :=
      insertEntry_append hBefore e.2
    refine ih ?_
    rw [h, hInsert, List.append_assoc, List.singleton_append]

theorem ofList_entries (d : Dictionary α) : ofList d.entries = d :=
  foldl_insert (List.nil_append d.entries).symm

end Dictionary

namespace Settings

open Json

theorem memberTerms_eq_map (ms : List (Text × Value)) :
    Value.memberTerms ms = ms.map fun m => (m.1, m.2.term) := by
  induction ms with
  | nil => rfl
  | cons m ms ih => rw [Value.memberTerms, ih, List.map_cons]

theorem spellsPreview_toJson (p : PreviewOptions) : SpellsPreview p p.toJson.term := by
  have hTerm : p.toJson.term =
      .object (PreviewOptions.flags.map fun flag => (flag.1.toList, .bool (flag.2 p))) := rfl
  have hKeys : ∀ flag ∈ PreviewOptions.flags,
      (PreviewOptions.flags.map fun flag => flag.1.toList).count flag.1.toList ≤ 1 := by decide
  refine ⟨_, hTerm, fun flag hFlag => ?_⟩
  have hOnce : AtMostOnce flag.1
      (PreviewOptions.flags.map fun flag => (flag.1.toList, .bool (flag.2 p))) := by
    rw [AtMostOnce, List.map_map]
    exact hKeys flag hFlag
  exact ⟨hOnce, isField_of_mem hOnce (List.mem_map_of_mem hFlag) rfl⟩

theorem spellsAliases_entries (d : Dictionary Text) :
    SpellsAliases d (Value.object (d.entries.map fun e => (e.1, .string e.2))).term := by
  refine ⟨d.entries, ?_, d.ofList_entries.symm⟩
  rw [Value.term, memberTerms_eq_map, List.map_map]
  rfl

/-- Printed settings take their fields from what they print. -/
theorem exists_takes_toJson {s : Settings} (h : s.undoHistoryLimit ≤ maxWord) :
    ∃ ms, s.toJson.term = .object ms ∧ (∀ name ∈ fieldNames, AtMostOnce name ms) ∧
      Takes ms s := by
  have hKeys : ∀ name ∈ fieldNames, (fieldNames.map String.toList).count name.toList ≤ 1 := by
    decide
  refine ⟨_, rfl, hKeys, ?_⟩
  simp only [fieldNames, List.forall_mem_cons] at hKeys
  obtain ⟨hModifier, hLimit, hAliases, hPreview, -⟩ := hKeys
  constructor
  · exact isField_of_mem hModifier (.head _) rfl
  · exact isField_of_mem hLimit (.tail _ (.head _)) ⟨_, rfl, Numeral.natural?_ofNat h⟩
  · exact isField_of_mem hAliases (.tail _ (.tail _ (.head _)))
      (spellsAliases_entries s.languageAliases)
  · exact isField_of_mem hPreview (.tail _ (.tail _ (.tail _ (.head _))))
      (spellsPreview_toJson s.preview)

/-- The settings are read back as they were printed. -/
theorem ofJson_pretty {s : Settings} (h : s.undoHistoryLimit ≤ Json.maxWord) :
    ofJson s.toJson.pretty = .ok s := by
  obtain ⟨ms, hTerm, hOnce, hTakes⟩ := exists_takes_toJson h
  have hDocument := isDocument_pretty s.toJson
  rw [hTerm] at hDocument
  exact readWholeText_of_some SettingsReader.decodes_readSettings hDocument
    (SettingsReader.settings?_of_takes hOnce hTakes)

theorem ofJsonSanitized_pretty {s : Settings} (h : s.undoHistoryLimit ≤ Json.maxWord) :
    ofJsonSanitized s.toJson.pretty = .ok s.sanitize := by
  rw [ofJsonSanitized, ofJson_pretty h]
  rfl

theorem sanitize_eq (s : Settings) : s.sanitize =
    { s with
      undoHistoryLimit := max 1 (min s.undoHistoryLimit 1000)
      languageAliases :=
        s.languageAliases.filter fun key canonical => !key.isBlank && !canonical.isBlank } := by
  have hUsable : isUsableAlias = fun key canonical => !key.isBlank && !canonical.isBlank := by
    funext key canonical
    rw [isUsableAlias, Text.isEmpty_trim, Text.isEmpty_trim]
  rw [sanitize, hUsable]
  rfl

theorem sanitize_sanitize (s : Settings) : s.sanitize.sanitize = s.sanitize := by
  have hLimit : max minUndoHistory (min s.sanitize.undoHistoryLimit maxUndoHistory) =
      s.sanitize.undoHistoryLimit := by
    simp only [sanitize, minUndoHistory, maxUndoHistory]
    omega
  have hAliases : s.sanitize.languageAliases.filter isUsableAlias =
      s.sanitize.languageAliases := by
    refine Dictionary.ext ?_
    simp only [sanitize, Dictionary.filter, List.filter_filter, Bool.and_self]
  rw [sanitize, hLimit, hAliases]

theorem sanitize_limit_le (s : Settings) : s.sanitize.undoHistoryLimit ≤ Json.maxWord := by
  simp only [sanitize, minUndoHistory, maxUndoHistory, Json.maxWord]
  omega

end Settings

end MarkdownEditor
