import MarkdownEditor.Proofs.Files.Place
import MarkdownEditor.Proofs.Files.World
import MarkdownEditor.Proofs.Settings.RoundTrip
import MarkdownEditor.Proofs.Text.Utf8
import MarkdownEditor.Settings.Store

/-!
# Saving settings and loading them again

A save that succeeds has written the file by way of the backup, both of which are places for
files next to each other. So loading finds what was printed, and the same save succeeds again.
-/

namespace MarkdownEditor.Store

set_option autoImplicit false

open FileTree

variable {s : Settings} {path : Text} {w w' : World} {location way : Location}

/-- The parent of a place is there, so nothing has to be made. -/
theorem ensureParent_of_isPlace (h : IsPlace w.tree w.current path location) :
    ensureParent World.shell path w = (.ok (), w) := by
  unfold ensureParent
  cases hParent : (Path.parent? path).filter (!·.isEmpty) with
  | none => rfl
  | some parent =>
    obtain ⟨hParent, hNil⟩ := Option.filter_eq_some_iff.mp hParent
    have hStat := h.stat_parent hParent (by simpa using hNil)
    exact World.bind_of_eq (World.exists?_of_ok hStat) _

/-- The world in which the settings went to `location` by way of the backup. -/
def afterSave (s : Settings) (path : Text) (way location : Location) (w : World) : World :=
  { w with
    tree := w.tree.replaced way location (Text.encode s.toJson.pretty)
    notices :=
      .log .info ("Configuration saved successfully to ".toList ++ path) :: w.notices }

/-- After the parent is there, saving is a write to the backup and a move to the path. -/
theorem saveTo_of_ensureParent {w₀ : World} (h : ensureParent World.shell path w = (.ok (), w₀)) :
    saveTo World.shell s path w = (.ok (), w') ↔
      ∃ way location, IsPlace w₀.tree w₀.current (backup path) way ∧
        IsPlace w₀.tree w₀.current path location ∧ w' = afterSave s path way location w₀ := by
  unfold saveTo
  rw [World.bind_of_eq h]
  constructor
  · intro hSave
    cases hWrite : w₀.tree.write w₀.current (backup path) (Text.encode s.toJson.pretty) with
    | error e => cases (World.bind_of_eq (World.write_of_error hWrite) _).symm.trans hSave
    | ok middle =>
      have hMove := (World.bind_of_eq (World.write_of_ok hWrite) _).symm.trans hSave
      cases hRename : middle.rename w₀.current (backup path) path with
      | error e =>
        have hFailed := World.rename_of_error (w := { w₀ with tree := middle }) hRename
        cases (World.bind_of_eq hFailed _).symm.trans hMove
      | ok tree =>
        have hMoved := World.rename_of_ok (w := { w₀ with tree := middle }) hRename
        have hDone := (World.bind_of_eq hMoved _).symm.trans hMove
        obtain ⟨way, location, hWay, hLocation, rfl⟩ :=
          write_rename_eq_ok_iff.mp ⟨middle, hWrite, hRename⟩
        exact ⟨way, location, hWay, hLocation, (congrArg Prod.snd hDone).symm⟩
  · rintro ⟨way, location, hWay, hLocation, rfl⟩
    obtain ⟨middle, hWrite, hRename⟩ :=
      write_rename_eq_ok_iff.mpr ⟨way, location, hWay, hLocation, rfl⟩
    have hMoved := World.rename_of_ok (w := { w₀ with tree := middle }) hRename
    exact (World.bind_of_eq (World.write_of_ok hWrite) _).trans (World.bind_of_eq hMoved _)

/-- A save that succeeds went to a place by way of the backup. -/
theorem exists_of_saveTo (h : saveTo World.shell s path w = (.ok (), w')) :
    ∃ w₀ way location, IsPlace w₀.tree w₀.current (backup path) way ∧
      IsPlace w₀.tree w₀.current path location ∧ w' = afterSave s path way location w₀ := by
  cases hParent : ensureParent World.shell path w with
  | mk result w₀ =>
    cases result with
    | error e =>
      rw [saveTo, World.bind_of_eq hParent] at h
      cases h
    | ok =>
      obtain ⟨way, location, hPlaces⟩ := (saveTo_of_ensureParent hParent).mp h
      exact ⟨w₀, way, location, hPlaces⟩

theorem saveTo_of_isPlace (hWay : IsPlace w.tree w.current (backup path) way)
    (hLocation : IsPlace w.tree w.current path location) (s : Settings) :
    saveTo World.shell s path w = (.ok (), afterSave s path way location w) :=
  (saveTo_of_ensureParent (ensureParent_of_isPlace hLocation)).mpr
    ⟨way, location, hWay, hLocation, rfl⟩

def afterLoad (path : Text) (w : World) : World :=
  { w with
    notices :=
      .log .info ("Configuration loaded successfully from ".toList ++ path) :: w.notices }

theorem loadFrom_of_file {content : Bytes} {t : Text}
    (hPlace : IsPlace w.tree w.current path location)
    (hFile : w.tree.entry? location = some (.file content)) (hText : Text.decode? content = some t)
    (hBlank : t.isBlank = false) (hSettings : Settings.ofJsonSanitized t = .ok s) :
    loadFrom World.shell path w = (.ok s, afterLoad path w) := by
  have hRead := World.readText_of_ok (hPlace.read_of_file hFile) hText
  unfold loadFrom
  rw [World.bind_of_eq (World.exists?_of_ok (hPlace.stat_of_file hFile)), if_pos rfl,
    World.bind_of_eq hRead]
  simp only [Text.isEmpty_trim, hBlank, hSettings]
  rfl

theorem isBlank_pretty (s : Settings) : s.toJson.pretty.isBlank = false := by
  obtain ⟨c, tail, hText, hc⟩ := (Json.spells_prettyAt s.toJson 0).exists_cons
  obtain rfl := beq_iff_eq.mp hc
  rw [Json.Value.pretty, hText]
  rfl

section

variable (hWay : IsPlace w.tree w.current (backup path) way)
  (hLocation : IsPlace w.tree w.current path location)
include hWay hLocation

theorem sameDirectories_afterSave (s : Settings) :
    SameDirectories w.tree (afterSave s path way location w).tree :=
  sameDirectories_replaced hWay.free hLocation.free _

theorem loadFrom_afterSave (hLimit : s.undoHistoryLimit ≤ Json.maxWord) :
    loadFrom World.shell path (afterSave s path way location w) =
      (.ok s.sanitize, afterLoad path (afterSave s path way location w)) := by
  have hPlace := hLocation.congr (sameDirectories_afterSave hWay hLocation s)
  refine loadFrom_of_file hPlace ?_ (Text.decode?_encode s.toJson.pretty) (isBlank_pretty s)
    (Settings.ofJsonSanitized_pretty hLimit)
  exact (entry?_replaced hWay.free hLocation.free).trans (if_pos rfl)

/-- The backup stands next to the target, so it is the target only if the paths are the same. -/
theorem backup_ne (h : backup path ≠ path) : way ≠ location := by
  obtain ⟨dir, name, hSplit⟩ := hLocation.exists_isSplit
  obtain ⟨hDots, -⟩ := hLocation.location_eq hSplit
  simp only [isDots, Bool.or_eq_false_iff, beq_eq_false_iff_ne, ne_eq] at hDots
  obtain ⟨name', hSplit'⟩ := hSplit.withExtension_isSplit hDots.1 hDots.2
    (show '/' ∉ "bak".toList by decide)
  rintro rfl
  exact h (hWay.path_eq hLocation hSplit' hSplit)

theorem stat_backup_afterSave (h : backup path ≠ path) (s : Settings) :
    (afterSave s path way location w).tree.stat w.current (backup path) = .error .notFound := by
  refine (hWay.congr (sameDirectories_afterSave hWay hLocation s)).stat_of_none ?_
  refine (entry?_replaced hWay.free hLocation.free).trans ?_
  rw [if_neg (backup_ne hWay hLocation h), if_pos rfl]

end

theorem loadFrom_of_saveTo (hLimit : s.undoHistoryLimit ≤ Json.maxWord)
    (hSaved : saveTo World.shell s path w = (.ok (), w')) :
    loadFrom World.shell path w' = (.ok s.sanitize, afterLoad path w') := by
  obtain ⟨w₀, way, location, hWay, hLocation, rfl⟩ := exists_of_saveTo hSaved
  exact loadFrom_afterSave hWay hLocation hLimit

/-- In the world `w`, the file at the path holds settings that are loaded as `cleaned`. -/
structure Holds (path : Text) (cleaned : Settings) (w : World) : Prop where
  loads : loadFrom World.shell path w = (.ok cleaned, afterLoad path w)
  /-- Unless the backup is the file itself, there is none. -/
  noBackup : backup path ≠ path → w.tree.stat w.current (backup path) = .error .notFound
  /-- What was loaded can be saved there again, and loading gives the same. -/
  again : ∃ w', saveTo World.shell cleaned path (afterLoad path w) = (.ok (), w') ∧
    (loadFrom World.shell path w').1 = .ok cleaned
  /-- The same holds of every other save of what was loaded. -/
  elsewhere : ∀ path' v v', saveTo World.shell cleaned path' v = (.ok (), v') →
    (loadFrom World.shell path' v').1 = .ok cleaned

/-- Saving and loading cleans the settings and does nothing else to them. -/
theorem holds_of_saveTo (hLimit : s.undoHistoryLimit ≤ Json.maxWord)
    (hSaved : saveTo World.shell s path w = (.ok (), w')) :
    Holds path
      { s with
        undoHistoryLimit := max 1 (min s.undoHistoryLimit 1000)
        languageAliases :=
          s.languageAliases.filter fun key canonical => !key.isBlank && !canonical.isBlank }
      w' := by
  -- what is clean stays as it is, wherever it is saved
  have hClean (path : Text) (v v' : World)
      (hSaved : saveTo World.shell s.sanitize path v = (.ok (), v')) :
      (loadFrom World.shell path v').1 = .ok s.sanitize := by
    obtain ⟨v₀, way, location, hWay, hLocation, rfl⟩ := exists_of_saveTo hSaved
    rw [loadFrom_afterSave hWay hLocation s.sanitize_limit_le, Settings.sanitize_sanitize]
  -- the parent may just have been made: the places are those of the world after that
  obtain ⟨w₀, way, location, hWay, hLocation, rfl⟩ := exists_of_saveTo hSaved
  have hSame := sameDirectories_afterSave hWay hLocation s
  rw [← Settings.sanitize_eq]
  refine ⟨loadFrom_afterSave hWay hLocation hLimit,
    fun hBackup => stat_backup_afterSave hWay hLocation hBackup s, ?_, hClean⟩
  have hAgain := saveTo_of_isPlace (w := afterLoad path (afterSave s path way location w₀))
    (hWay.congr hSame) (hLocation.congr hSame) s.sanitize
  exact ⟨_, hAgain, hClean path _ _ hAgain⟩

/-- Settings with a limit out of range, a blank alias and one that stays. -/
def uncleanSettings : Settings where
  primaryModifier := .cmd
  undoHistoryLimit := 5000
  languageAliases := ⟨[([' '], "rust".toList), ("rs".toList, "rust".toList)], by decide⟩
  preview := .default

/-- The directory of the file is made on the way. -/
theorem holds_of_saveTo_newDirectory :
    ∃ w', uncleanSettings.undoHistoryLimit ≤ Json.maxWord ∧
      saveTo World.shell uncleanSettings "conf/c.json".toList ⟨.empty, [], [], [], []⟩ = (.ok (), w') ∧
      Holds "conf/c.json".toList
        { uncleanSettings with
          undoHistoryLimit := 1000
          languageAliases := ⟨[("rs".toList, "rust".toList)], by decide⟩ }
        w' := by
  have hLimit : uncleanSettings.undoHistoryLimit ≤ Json.maxWord := by decide
  have hOk : (saveTo World.shell uncleanSettings "conf/c.json".toList
      ⟨.empty, [], [], [], []⟩).1.isOk = true := by
    decide +kernel
  cases hSaved : saveTo World.shell uncleanSettings "conf/c.json".toList ⟨.empty, [], [], [], []⟩ with
  | mk result w' =>
    rw [hSaved] at hOk
    cases result with
    | error e => cases hOk
    | ok => exact ⟨w', hLimit, rfl, holds_of_saveTo hLimit hSaved⟩

end MarkdownEditor.Store
