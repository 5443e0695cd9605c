import MarkdownEditor.Proofs.Language.Alias
import MarkdownEditor.Proofs.Settings.Store

/-!
# What cleaning does to the aliases

Cleaning drops the configured aliases that have nothing on one of their sides. The alias table
passes over exactly these, whatever stands in it already, so the table of cleaned settings and
the collisions on the way to it are those of the settings as they were.
-/

namespace MarkdownEditor

set_option autoImplicit false

namespace AliasTable

theorem isUsableAlias_eq (e : Text × Text) : Settings.isUsableAlias e.1 e.2 = isUsable e := by
  rw [Settings.isUsableAlias, isUsable, Text.isEmpty_trim, Text.isEmpty_trim]

theorem add_ne_of_usable {e : Text × Text} (h : isUsable e = true) :
    add .empty e.1 e.2 ≠ (.empty, []) := by
  rw [add_of_usable h]
  intro hSame
  have hEntries := congrArg (fun r => r.1.entries) hSame
  cases hEntries

theorem extend_filter (table : AliasTable) (extra : List (Text × Text)) :
    table.extend (extra.filter isUsable) = table.extend extra := by
  induction extra generalizing table with
  | nil => rfl
  | cons e extra ih =>
    cases hUsable : isUsable e with
    | true =>
      rw [List.filter_cons_of_pos hUsable, extend, extend]
      simp only [ih]
    | false =>
      rw [List.filter_cons_of_neg (by simp [hUsable]), ih, extend]
      simp only [add_of_not_usable hUsable, List.nil_append]

end AliasTable

namespace Settings

theorem entries_sanitize (s : Settings) : s.sanitize.languageAliases.entries =
    s.languageAliases.entries.filter AliasTable.isUsable := by
  simp only [sanitize, Dictionary.filter, AliasTable.isUsableAlias_eq]

theorem aliases_sanitize (s : Settings) : s.sanitize.aliases = s.aliases := by
  rw [aliases, aliases, entries_sanitize]
  exact AliasTable.extend_filter AliasTable.builtin s.languageAliases.entries

/-- Cleaning the settings changes nothing that an alias table can tell. -/
structure KeepsMeaning (s : Settings) : Prop where
  again : s.sanitize.sanitize = s.sanitize
  table : s.sanitize.aliases.1 = s.aliases.1
  collisions : s.sanitize.aliases.2 = s.aliases.2
  /-- What is dropped is what no alias table would take in or report. -/
  dropped : ∀ e ∈ s.languageAliases.entries, e ∉ s.sanitize.languageAliases.entries ↔
    ∀ table : AliasTable, table.add e.1 e.2 = (table, [])
  /-- Saved and loaded again, settings with a limit of 64 bits resolve every tag as before. -/
  reloaded : s.undoHistoryLimit ≤ Json.maxWord → ∀ path w w',
    Store.saveTo World.shell s path w = (.ok (), w') →
    ∃ loaded, (Store.loadFrom World.shell path w').1 = .ok loaded ∧
      loaded.aliases.2 = s.aliases.2 ∧
      ∀ tag, loaded.aliases.1.resolve tag = s.aliases.1.resolve tag

theorem keepsMeaning (s : Settings) : s.KeepsMeaning := by
  constructor
  · exact s.sanitize_sanitize
  · rw [aliases_sanitize]
  · rw [aliases_sanitize]
  · intro e he
    rw [entries_sanitize, List.mem_filter]
    constructor
    · intro hDropped table
      have hUsable : AliasTable.isUsable e = false :=
        Bool.eq_false_iff.mpr fun h => hDropped ⟨he, h⟩
      exact AliasTable.add_of_not_usable hUsable
    · rintro hPassed ⟨-, hUsable⟩
      exact AliasTable.add_ne_of_usable hUsable (hPassed .empty)
  · intro hLimit path w w' hSaved
    have hLoaded := Store.loadFrom_of_saveTo hLimit hSaved
    refine ⟨s.sanitize, congrArg Prod.fst hLoaded, ?_, fun tag => ?_⟩
    · rw [aliases_sanitize]
    · rw [aliases_sanitize]

/-- Aliases with nothing on one side, one that collides, and one that stays. -/
def mixedAliases : Settings where
  primaryModifier := .auto
  undoHistoryLimit := 0
  languageAliases :=
    ⟨[([' '], "rust".toList), ("JS".toList, "json".toList), ("x".toList, ['\t']),
      ("zsh".toList, "Bash".toList)], by decide⟩
  preview := .default

theorem keepsMeaning_mixedAliases :
    mixedAliases.undoHistoryLimit ≤ Json.maxWord ∧
    mixedAliases.sanitize.languageAliases.keys = ["JS".toList, "zsh".toList] ∧
    mixedAliases.aliases.2 = [⟨"js".toList⟩] ∧
    (Store.saveTo World.shell mixedAliases "c.json".toList ⟨.empty, [], [], [], []⟩).1 = .ok () ∧
    mixedAliases.KeepsMeaning :=
  ⟨by decide, by decide, by decide +kernel, by rfl, keepsMeaning mixedAliases⟩

end Settings

end MarkdownEditor
