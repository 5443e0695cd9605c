import MarkdownEditor.Proofs.Settings.Atomic

/-!
# Writing the first settings

Without force the first settings are written only where nothing was, and nothing else is lost on
the way but the file that the backup path leads to. This is so whichever operations fail, as
long as the question whether the target is there does not, for every path that does not go back
up from a directory that has to be made first.
-/

namespace MarkdownEditor

set_option autoImplicit false

open FileTree

namespace Store

variable {env : Environment} {path : Option Text} {target other : Text} {tree : FileTree}
  {location : Location} {content : Bytes} {w : World} {v : FaultyWorld}

def IsStraight (path : Text) (w : World) : Prop :=
  (w.tree.IsClosed ∧ ['.', '.'] ∉ Path.names path) ∨ ParentIsThere path w

theorem isAt_file_of_isStraight (hStraight : IsStraight target w)
    (hGrown : Grown (Path.parents target) w.current w.tree tree)
    (hUp : ['.', '.'] ∉ Path.names target → ['.', '.'] ∉ Path.names other)
    (hAt : tree.IsAt w.current other location (.file content)) :
    w.tree.IsAt w.current other location (.file content) := by
  rcases hStraight with ⟨hClosed, hTarget⟩ | hParent
  · exact hGrown.isAt_file hClosed (hUp hTarget) hAt
  · exact hGrown.isAt_of_parent hParent hAt

/-- A file in the place of the backup was there before. -/
theorem isAt_backup (hStraight : IsStraight target w)
    (hGrown : Grown (Path.parents target) w.current w.tree tree)
    (hWay : IsPlace tree w.current (backup target) location)
    (hFile : tree.entry? location = some (.file content)) :
    w.tree.IsAt w.current (backup target) location (.file content) := by
  have hNoSlash := hWay.noSlash
  refine isAt_file_of_isStraight hStraight hGrown (fun hUp => ?_) ⟨hWay.leads, hFile, ?_⟩
  · obtain ⟨name, hLast, hDots⟩ := hWay.named
    simp only [isDots, Bool.or_eq_false_iff, beq_eq_false_iff_ne, ne_eq] at hDots
    exact Path.not_mem_names_withExtension (by decide) hUp hLast hDots.2
  · rw [hNoSlash]
    exact fun h => absurd h Bool.false_ne_true

/-- What writing the first settings without force does to all that was there. -/
structure KeepsFiles (env : Environment) (path : Option Text) (w : World)
    (result : Except Failure Text) (w' : World) : Prop where
  nowhere : ∀ e, path.elim (file env) .ok = .error e → result = .error e ∧ w' = w
  existing : ∀ target entry, path.elim (file env) .ok = .ok target →
    w.tree.stat w.current target = .ok entry → result = .error (alreadyExists target) ∧ w' = w
  entries : ∀ target, path.elim (file env) .ok = .ok target → IsStraight target w →
    ∀ location entry, w.tree.entry? location = some entry →
      (¬ ∃ content, w.tree.IsAt w.current (backup target) location (.file content)) →
      w'.tree.entry? location = some entry
  /-- What a path led to it still leads to. -/
  paths : ∀ target, path.elim (file env) .ok = .ok target → IsStraight target w →
    ∀ other location entry, w.tree.IsAt w.current other location entry →
      (¬ ∃ content, w.tree.IsAt w.current (backup target) location (.file content)) →
      w'.tree.IsAt w'.current other location entry

theorem init_of_error {e : Failure} (h : path.elim (file env) .ok = .error e) (v : FaultyWorld) :
    init FaultyWorld.shell env path false v = (.error e, v) := by
  unfold init
  rw [h]
  rfl

theorem init_of_missing {e : OsError} (h : path.elim (file env) .ok = .ok target)
    (hNext : v.plan.head?.join = none)
    (hStat : v.world.tree.stat v.world.current target = .error e) :
    (init FaultyWorld.shell env path false v).2 =
      (saveTo FaultyWorld.shell .default target ⟨v.world, v.plan.tail⟩).2 := by
  unfold init
  rw [h]
  refine (congrArg Prod.snd (World.bind_of_eq (FaultyWorld.exists?_of_error hNext hStat) _)).trans ?_
  cases hSave : saveTo FaultyWorld.shell .default target ⟨v.world, v.plan.tail⟩ with
  | mk result v' =>
    refine (congrArg Prod.snd (World.bind_of_eq hSave _)).trans ?_
    cases result <;> rfl

/-- The target is there and nothing happens, or it is missing and the call ends as a save. -/
theorem init_cases (h : path.elim (file env) .ok = .ok target) (hNext : v.plan.head?.join = none) :
    (∃ entry, v.world.tree.stat v.world.current target = .ok entry ∧
      init FaultyWorld.shell env path false v =
        (.error (alreadyExists target), ⟨v.world, v.plan.tail⟩)) ∨
    ∃ e tree result, v.world.tree.stat v.world.current target = .error e ∧
      Grown (Path.parents target) v.world.current v.world.tree tree ∧
      Ends .default target { v.world with tree := tree } result
        (init FaultyWorld.shell env path false v).2.world := by
  cases hStat : v.world.tree.stat v.world.current target with
  | ok entry =>
    refine .inl ⟨entry, rfl, ?_⟩
    unfold init
    rw [h]
    exact World.bind_of_eq (FaultyWorld.exists?_of_ok hNext hStat) _
  | error e =>
    obtain ⟨tree, hGrown, hEnds⟩ := exists_ends_saveTo .default target ⟨v.world, v.plan.tail⟩
    rw [init_of_missing h hNext hStat]
    exact .inr ⟨e, tree, _, rfl, hGrown, hEnds⟩

section

variable {s : Settings} {e : OsError} {entry : Entry} {result : Except Failure Unit} {w' : World}
  (hStraight : IsStraight target w) (hGrown : Grown (Path.parents target) w.current w.tree tree)
  (hMissing : w.tree.stat w.current target = .error e)
  (hEnds : Ends s target { w with tree := tree } result w')
include hStraight hGrown hMissing hEnds

theorem entry?_of_ends (hEntry : w.tree.entry? location = some entry)
    (hOther : ¬ ∃ content, w.tree.IsAt w.current (backup target) location (.file content)) :
    w'.tree.entry? location = some entry := by
  have hThere := hGrown.entry?_of_some hEntry
  -- what is written over is a file, since directories are not in the way
  have hWay {way : Location} (hWay : IsPlace tree w.current (backup target) way) :
      location ≠ way := by
    rintro rfl
    cases entry with
    | directory => exact hWay.free hThere
    | file content => exact hOther ⟨content, isAt_backup hStraight hGrown hWay hThere⟩
  have hTarget {place : Location} (hPlace : IsPlace tree w.current target place) :
      location ≠ place := by
    rintro rfl
    cases entry with
    | directory => exact hPlace.free hThere
    | file content =>
      have hLeads : tree.IsAt w.current target location (.file content) :=
        ⟨hPlace.leads, hThere, fun hSlash => absurd hSlash (by simp [hPlace.noSlash])⟩
      have hAt := isAt_file_of_isStraight hStraight hGrown id hLeads
      cases (stat_eq_ok_iff.mpr ⟨location, hAt⟩).symm.trans hMissing
  cases hEnds with
  | unwritten => exact hThere
  | unmoved _ written hPlace =>
    refine (entry?_set (ne_nil_of_not_directory hPlace.free) _).trans ?_
    rw [if_neg (hWay hPlace)]
    exact hThere
  | moved hPlace hPlace' =>
    refine (entry?_replaced hPlace.free hPlace'.free).trans ?_
    rw [if_neg (hTarget hPlace'), if_neg (hWay hPlace)]
    exact hThere

theorem isAt_of_ends (hAt : w.tree.IsAt w.current other location entry)
    (hOther : ¬ ∃ content, w.tree.IsAt w.current (backup target) location (.file content)) :
    w'.tree.IsAt w'.current other location entry := by
  have hDirectories (place : Location) (hPlace : w.tree.entry? place = some .directory) :
      w'.tree.entry? place = some .directory := by
    refine entry?_of_ends hStraight hGrown hMissing hEnds hPlace ?_
    rintro ⟨content, hBackup⟩
    cases hBackup.found.symm.trans hPlace
  have hCurrent : w'.current = w.current := by
    cases hEnds <;> rfl
  rw [hCurrent]
  exact ⟨resolve_mono hDirectories hAt.leads,
    entry?_of_ends hStraight hGrown hMissing hEnds hAt.found hOther, hAt.slash⟩

end

/-- Two files in a directory, and a plan by which the fourth operation, the move of the backup
over the target, fails. -/
def failingMove : FaultyWorld where
  world := {
    tree := ⟨[(["conf".toList, "c.bak".toList], .file [0x6B]),
      (["conf".toList, "d.json".toList], .file [0x7B, 0x7D]), (["conf".toList], .directory)]⟩
    current := []
    inputBytes := []
    outputs := []
    notices := [] }
  plan := [none, none, none, some ⟨.other "Input/output error".toList, none⟩]

/-- A file that the backup of a target goes over, and one that is a target itself. -/
def twoFiles : FaultyWorld where
  world := {
    tree := ⟨[(["c.bak".toList], .file [0x6B]), (["d.json".toList], .file [0x7B, 0x7D])]⟩
    current := []
    inputBytes := []
    outputs := []
    notices := [] }
  plan := []

end Store

end MarkdownEditor
