import MarkdownEditor.Proofs.Files.Growth
import MarkdownEditor.Proofs.Settings.Store

/-!
# Saving in a world in which operations fail

A save that fails, whichever of its operations does, has at most made some of the parents and
spoilt the backup. Neither is what the path leads to, unless the path goes up from a parent
that was just made.
-/

namespace MarkdownEditor

set_option autoImplicit false

open FileTree

namespace Store

variable {s : Settings} {path : Text} {tree : FileTree} {current way location : Location}
  {entry : Entry} {w w' : World}

section

variable (hWay : IsPlace tree current (backup path) way) (hBackup : backup path ≠ path)
include hWay hBackup

theorem ne_of_isAt (hAt : tree.IsAt current path location entry) : location ≠ way := by
  rintro rfl
  have hFree : entry ≠ .directory := fun h => hWay.free (h ▸ hAt.found)
  have hSlash : Path.endsInSlash path = false :=
    Bool.eq_false_iff.mpr fun h => hFree (hAt.slash h)
  obtain ⟨⟨-, hNil, -⟩, hWalk⟩ := resolve_eq_ok_iff.mp hAt.leads
  obtain ⟨dir, name, hSplit⟩ := Path.exists_isSplit hNil hSlash
  rw [hSplit.names_eq] at hWalk
  obtain ⟨middle, -, hLast⟩ := walk_append_eq_ok.mp hWalk
  rw [walk_singleton] at hLast
  have hDots : isDots name = false := by
    rw [isDots, Bool.or_eq_false_iff, beq_eq_false_iff_ne, beq_eq_false_iff_ne]
    constructor
    · rintro rfl
      obtain rfl := follow_dot hLast
      exact hWay.free (directory_of_follow hLast)
    · rintro rfl
      exact hBackup (hSplit.withExtension_up _)
  have hPlace : IsPlace tree current path location :=
    ⟨hAt.leads, ⟨name, by rw [hSplit.names_eq, List.getLast?_concat], hDots⟩, hSlash, hWay.free⟩
  exact backup_ne (w := ⟨tree, current, [], [], []⟩) hWay hPlace hBackup rfl

/-- Whatever is written to the backup, the path leads where it did. -/
theorem isAt_set_iff (content : Bytes) :
    IsAt (tree.set way (.file content)) current path location entry ↔
      tree.IsAt current path location entry := by
  have hSame := sameDirectories_set hWay.free content
  have hSet (h : location ≠ way) :
      entry? (tree.set way (.file content)) location = tree.entry? location := by
    rw [entry?_set (ne_nil_of_not_directory hWay.free), if_neg h]
  constructor
  · intro hAt
    have hNe := ne_of_isAt (hWay.congr hSame) hBackup hAt
    exact ⟨resolve_congr hSame.symm hAt.leads, hSet hNe ▸ hAt.found, hAt.slash⟩
  · intro hAt
    have hNe := ne_of_isAt hWay hBackup hAt
    exact ⟨resolve_congr hSame hAt.leads, (hSet hNe).trans hAt.found, hAt.slash⟩

end

theorem onlyMakes_ensureParent (path : Text) :
    FaultyWorld.OnlyMakes (Path.parents path) (ensureParent FaultyWorld.shell path) := by
  unfold ensureParent
  cases hParent : (Path.parent? path).filter (!·.isEmpty) with
  | none => exact .pure _
  | some parent =>
    obtain ⟨hParent, -⟩ := Option.filter_eq_some_iff.mp hParent
    have hAll : Path.ancestors parent ⊆ Path.parents path := by
      rw [Path.parents, hParent]
      exact List.Subset.refl _
    refine .bind (.exists? parent) fun found => ?_
    cases found with
    | true => exact .pure _
    | false =>
      refine .bind (.makeDirectories hAll) fun made => ?_
      cases made with
      | ok => exact .pure _
      | error e => exact .pure _

/-- The ends of a save once `ensureParent` has made what it makes. -/
inductive Ends (s : Settings) (path : Text) (w : World) : Except Failure Unit → World → Prop where
  | unwritten (e : Failure) : Ends s path w (.error e) w
  | unmoved (e : Failure) {way : Location} (written : Bytes)
      (hWay : IsPlace w.tree w.current (backup path) way) :
      Ends s path w (.error e) { w with tree := w.tree.set way (.file written) }
  | moved {way location : Location} (hWay : IsPlace w.tree w.current (backup path) way)
      (hLocation : IsPlace w.tree w.current path location) :
      Ends s path w (.ok ()) (afterSave s path way location w)

theorem exists_ends_saveTo (s : Settings) (path : Text) (w : FaultyWorld) :
    ∃ tree, Grown (Path.parents path) w.world.current w.world.tree tree ∧
      Ends s path { w.world with tree := tree } (saveTo FaultyWorld.shell s path w).1
        (saveTo FaultyWorld.shell s path w).2.world := by
  obtain ⟨tree, hMade, hGrown⟩ := onlyMakes_ensureParent path w
  refine ⟨tree, hGrown, ?_⟩
  rw [← hMade]
  unfold saveTo
  cases hParent : ensureParent FaultyWorld.shell path w with
  | mk result w₀ =>
  rw [World.bind_of_eq hParent]
  cases result with
  | error e => exact .unwritten e
  | ok =>
  cases hWrite : FaultyWorld.shell.write (backup path) (Text.encode s.toJson.pretty) w₀ with
  | mk result w₁ =>
  simp only
  rw [World.bind_of_eq hWrite]
  rcases FaultyWorld.write_cases hWrite with ⟨e, rfl, hSame⟩ | ⟨way, written, hWay, hWorld, hAll⟩
  · change Ends s path w₀.world (.error (.configSave (backup path) e.message)) w₁.world
    rw [hSame]
    exact .unwritten _
  cases result with
  | error e =>
    change Ends s path w₀.world (.error (.configSave (backup path) e.message)) w₁.world
    rw [hWorld]
    exact .unmoved _ written hWay
  | ok =>
  obtain rfl := hAll rfl
  cases hRename : FaultyWorld.shell.rename (backup path) path w₁ with
  | mk result w₂ =>
  simp only
  rw [World.bind_of_eq hRename]
  rcases FaultyWorld.rename_cases hRename with ⟨e, rfl, hSame⟩ | ⟨rfl, tree', hTree, hWorld'⟩
  · change Ends s path w₀.world (.error (.configSave path e.message)) w₂.world
    rw [hSame, hWorld]
    exact .unmoved _ _ hWay
  · rw [hWorld] at hTree
    obtain ⟨way', location, hWay', hLocation, rfl⟩ :=
      write_rename_eq_ok_iff.mp ⟨_, write_eq_ok_iff.mpr ⟨way, hWay, rfl⟩, hTree⟩
    have hEnd : (afterSave s path way' location w₀.world) =
        (World.shell.info ("Configuration saved successfully to ".toList ++ path) w₂.world).2 := by
      rw [hWorld', hWorld]
      rfl
    change Ends s path w₀.world (.ok ())
      (World.shell.info ("Configuration saved successfully to ".toList ++ path) w₂.world).2
    rw [← hEnd]
    exact .moved hWay' hLocation

/-- The parent of the path, where it has one, is there. -/
def ParentIsThere (path : Text) (w : World) : Prop :=
  ∀ parent, Path.parent? path = some parent → parent ≠ [] →
    ∃ entry, w.tree.stat w.current parent = .ok entry

/-- From `w` to `w'` nothing happened to what the path leads to. -/
structure KeepsTarget (path : Text) (w w' : World) : Prop where
  present : ∀ entry, w.tree.stat w.current path = .ok entry →
    w'.tree.stat w'.current path = .ok entry
  /-- If the path led to nothing, it still does. -/
  absent : (w.tree.IsClosed ∧ ['.', '.'] ∉ Path.names path) ∨ ParentIsThere path w →
    ∀ entry, w'.tree.stat w'.current path = .ok entry → w.tree.stat w.current path = .ok entry
  /-- Even a path that goes back up leads to nothing but what was there and new directories. -/
  nothingElse : ∀ location entry, w'.tree.IsAt w'.current path location entry →
    w.tree.entry? location = some entry ∨
      w.tree.entry? location = none ∧ entry = .directory

theorem keepsTarget_of_isAt_iff (hCurrent : w'.current = w.current)
    (hGrown : Grown (Path.parents path) w.current w.tree tree)
    (hSame : ∀ location entry,
      w'.tree.IsAt w.current path location entry ↔ tree.IsAt w.current path location entry) :
    KeepsTarget path w w' := by
  constructor
  · intro entry hStat
    obtain ⟨location, hAt⟩ := stat_eq_ok_iff.mp hStat
    rw [hCurrent]
    exact stat_eq_ok_iff.mpr ⟨location, (hSame location entry).mpr (hGrown.isAt hAt)⟩
  · intro hCase entry hStat
    rw [hCurrent] at hStat
    obtain ⟨location, hAt⟩ := stat_eq_ok_iff.mp hStat
    have hAt' := (hSame location entry).mp hAt
    rcases hCase with ⟨hClosed, hUp⟩ | hParent
    · exact stat_eq_ok_iff.mpr ⟨location, hGrown.isAt_of_closed hClosed hUp hAt'⟩
    · exact stat_eq_ok_iff.mpr ⟨location, hGrown.isAt_of_parent hParent hAt'⟩
  · intro location entry hAt
    rw [hCurrent] at hAt
    have hFound := ((hSame location entry).mp hAt).found
    rcases hGrown location with hSame' | ⟨hNone, hMade, -⟩
    · exact .inl (hSame'.symm.trans hFound)
    · exact .inr ⟨hNone, Option.some.inj (hFound.symm.trans hMade)⟩

/-- The save has the result and the world after it that a save in one step could have. -/
structure IsAtomic (s : Settings) (path : Text) (w : World) (result : Except Failure Unit)
    (w' : World) : Prop where
  saved : result = .ok () → w'.tree.read w'.current path = .ok (Text.encode s.toJson.pretty)
  failed : ∀ e, result = .error e → KeepsTarget path w w'

theorem isAtomic_saveTo (hBackup : backup path ≠ path) (s : Settings) (w : FaultyWorld) :
    IsAtomic s path w.world (saveTo FaultyWorld.shell s path w).1
      (saveTo FaultyWorld.shell s path w).2.world := by
  obtain ⟨tree, hGrown, hEnds⟩ := exists_ends_saveTo s path w
  generalize (saveTo FaultyWorld.shell s path w).1 = result at hEnds ⊢
  generalize (saveTo FaultyWorld.shell s path w).2.world = w' at hEnds ⊢
  cases hEnds with
  | unwritten e =>
    exact ⟨nofun, fun _ _ => keepsTarget_of_isAt_iff rfl hGrown fun _ _ => Iff.rfl⟩
  | unmoved e written hWay =>
    exact ⟨nofun, fun _ _ => keepsTarget_of_isAt_iff rfl hGrown fun _ _ =>
      isAt_set_iff hWay hBackup written⟩
  | moved hWay hLocation =>
    refine ⟨fun _ => ?_, nofun⟩
    refine (hLocation.congr (sameDirectories_afterSave hWay hLocation s)).read_of_file ?_
    exact (entry?_replaced hWay.free hLocation.free).trans (if_pos rfl)

/-- A file in a directory, and a plan by which the second operation, the write of the backup,
fails after one byte. -/
def fullDisk : FaultyWorld where
  world := {
    tree := ⟨[(["conf".toList, "c.json".toList], .file [0x7B, 0x7D]), (["conf".toList], .directory)]⟩
    current := []
    inputBytes := []
    outputs := []
    notices := [] }
  plan := [none, some ⟨.other "No space left on device".toList, some 1⟩]

theorem isAtomic_saveTo_fullDisk :
    backup "conf/c.json".toList ≠ "conf/c.json".toList ∧
    (saveTo FaultyWorld.shell .default "conf/c.json".toList fullDisk).1 =
      .error (.configSave "conf/c.bak".toList "No space left on device".toList) ∧
    (saveTo FaultyWorld.shell .default "conf/c.json".toList fullDisk).2.world.tree.read []
      "conf/c.bak".toList = .ok [0x7B] ∧
    IsAtomic .default "conf/c.json".toList fullDisk.world
      (saveTo FaultyWorld.shell .default "conf/c.json".toList fullDisk).1
      (saveTo FaultyWorld.shell .default "conf/c.json".toList fullDisk).2.world := by
  have hBackup : backup "conf/c.json".toList ≠ "conf/c.json".toList := by decide
  exact ⟨hBackup, by rfl, by rfl, isAtomic_saveTo hBackup .default fullDisk⟩

/-- A path that goes back up from a directory that is missing: making the directory makes what
the path leads to, over which nothing can be moved. -/
theorem saveTo_makesDirectory_goingUp :
    backup "x/../x".toList ≠ "x/../x".toList ∧
    FileTree.empty.stat [] "x/../x".toList = .error .notFound ∧
    (saveTo FaultyWorld.shell .default "x/../x".toList ⟨⟨.empty, [], [], [], []⟩, []⟩).1 =
      .error (.configSave "x/../x".toList "Is a directory (os error 21)".toList) ∧
    (saveTo FaultyWorld.shell .default "x/../x".toList
      ⟨⟨.empty, [], [], [], []⟩, []⟩).2.world.tree.stat [] "x/../x".toList = .ok .directory := by
  refine ⟨by decide, by rfl, by rfl, by rfl⟩

end Store

end MarkdownEditor
