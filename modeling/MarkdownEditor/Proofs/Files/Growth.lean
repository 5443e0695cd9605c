import Mathlib.Data.List.Induction
import MarkdownEditor.Proofs.Files.Ancestor
import MarkdownEditor.Proofs.Files.Fault

/-!
# Making the parents of a path

Making the parents of a path adds directories and changes nothing else, whatever fails on the
way. In a tree without dangling entries, the path leads to nothing new unless it goes back up.
-/

namespace MarkdownEditor

set_option autoImplicit false

namespace FileTree

variable {tree middle tree' : FileTree} {current location other : Location} {path : Text}
  {paths : List Text} {entry : Entry}

/-- The second tree has all that the first has, and else only directories at some of the
paths. -/
def Grown (paths : List Text) (current : Location) (tree tree' : FileTree) : Prop :=
  ∀ location, tree'.entry? location = tree.entry? location ∨
    tree.entry? location = none ∧ tree'.entry? location = some .directory ∧
      ∃ path ∈ paths, tree'.resolve current path = .ok location

namespace Grown

theorem refl (paths : List Text) (current : Location) (tree : FileTree) :
    Grown paths current tree tree := fun _ => .inl rfl

theorem entry?_of_some (h : Grown paths current tree tree')
    (hEntry : tree.entry? location = some entry) : tree'.entry? location = some entry := by
  rcases h location with hSame | ⟨hNone, -⟩
  · rw [hSame, hEntry]
  · rw [hNone] at hEntry
    cases hEntry

theorem resolve (h : Grown paths current tree tree')
    (hLeads : tree.resolve current path = .ok location) :
    tree'.resolve current path = .ok location :=
  resolve_mono (fun _ => h.entry?_of_some) hLeads

theorem isAt (h : Grown paths current tree tree')
    (hAt : tree.IsAt current path location entry) : tree'.IsAt current path location entry :=
  ⟨h.resolve hAt.leads, h.entry?_of_some hAt.found, hAt.slash⟩

theorem trans (h : Grown paths current tree middle) (h' : Grown paths current middle tree') :
    Grown paths current tree tree' := by
  intro location
  rcases h location with hSame | ⟨hNone, hMade, path, hPath, hLeads⟩
  · rw [← hSame]
    exact h' location
  · exact .inr ⟨hNone, h'.entry?_of_some hMade, path, hPath, h'.resolve hLeads⟩

theorem of_makeDirectory (hPath : path ∈ paths)
    (h : tree.makeDirectory current path = .ok tree') : Grown paths current tree tree' := by
  obtain ⟨location, ⟨hLeads, -⟩, hNone, rfl⟩ := makeDirectory_eq_ok_iff.mp h
  have hFree : tree.entry? location ≠ some .directory := by simp [hNone]
  have hSet (other : Location) : entry? (tree.set location .directory) other =
      if other = location then some .directory else tree.entry? other :=
    entry?_set (ne_nil_of_not_directory hFree) .directory
  intro other
  rw [hSet]
  split
  · next hEq =>
    rw [hEq]
    refine .inr ⟨hNone, rfl, path, hPath, resolve_mono (fun place hPlace => ?_) hLeads⟩
    rw [hSet]
    split
    · rfl
    · exact hPlace
  · exact .inl rfl

end Grown

/-- What is in the tree lies in a directory of it. -/
def IsClosed (tree : FileTree) : Prop :=
  ∀ location name, tree.entry? (location ++ [name]) ≠ none →
    tree.entry? location = some .directory

/-- Only names other than a dot lead on, if none leads back up. -/
theorem walk_eq {names : List Text} (hUp : ['.', '.'] ∉ names)
    (h : tree.walk location names = .ok other) :
    other = location ++ names.filter (· ≠ ['.']) := by
  induction names generalizing location with
  | nil => exact (Except.ok.inj h).symm.trans (List.append_nil location).symm
  | cons name names ih =>
    obtain ⟨hName, hLater⟩ := not_or.mp fun h => hUp (List.mem_cons.mpr h)
    obtain ⟨next, hFirst, hRest⟩ := bind_eq_ok.mp h
    rw [ih hLater hRest]
    by_cases hDot : name = ['.']
    · obtain rfl : next = location := follow_dot (hDot ▸ hFirst)
      simp [hDot]
    · have hDots : ¬ isDots name = true := by simp [isDots, hDot, Ne.symm hName]
      obtain rfl : next = location ++ [name] := follow_name hDots hFirst
      simp [hDot]

namespace Grown

/-- A way to something that was there before could be taken before. -/
theorem walk_of_closed {names : List Text} (h : Grown paths current tree tree')
    (hClosed : tree.IsClosed) (hUp : ['.', '.'] ∉ names)
    (hWalk : tree'.walk location names = .ok other) (hOther : tree.entry? other ≠ none) :
    tree.walk location names = .ok other := by
  induction names using List.reverseRecOn generalizing other with
  | nil => exact hWalk
  | append_singleton names name ih =>
    obtain ⟨hBefore, hName⟩ := not_or.mp fun h => hUp (List.mem_append.mpr h)
    obtain ⟨next, hNext, hLast⟩ := walk_append_eq_ok.mp hWalk
    rw [walk_singleton] at hLast
    have hDirectory' := directory_of_follow hLast
    -- the last step starts in a directory of the first tree too
    have hDirectory : tree.entry? next = some .directory := by
      by_cases hDot : name = ['.']
      · obtain rfl : other = next := follow_dot (hDot ▸ hLast)
        obtain ⟨entry, hEntry⟩ := Option.ne_none_iff_exists'.mp hOther
        rw [hEntry, ← h.entry?_of_some hEntry, hDirectory']
      · have hDots : ¬ isDots name = true := by
          simp [isDots, hDot, Ne.symm (List.ne_of_not_mem_cons hName)]
        obtain rfl : other = next ++ [name] := follow_name hDots hLast
        exact hClosed next name hOther
    refine walk_append_eq_ok.mpr ⟨next, ih hBefore hNext (by simp [hDirectory]), ?_⟩
    rw [walk_singleton, follow_congr hDirectory hDirectory', hLast]

/-- A file that a path leads to was there before, and the path led to it. -/
theorem isAt_file {content : Bytes} (h : Grown paths current tree tree') (hClosed : tree.IsClosed)
    (hUp : ['.', '.'] ∉ Path.names path)
    (hAt : tree'.IsAt current path location (.file content)) :
    tree.IsAt current path location (.file content) := by
  obtain ⟨hPath, hWalk⟩ := resolve_eq_ok_iff.mp hAt.leads
  have hFound : tree.entry? location = some (.file content) := by
    rcases h location with hSame | ⟨-, hMade, -⟩
    · rw [← hSame, hAt.found]
    · cases hAt.found.symm.trans hMade
  exact ⟨resolve_eq_ok_iff.mpr ⟨hPath, h.walk_of_closed hClosed hUp hWalk (by simp [hFound])⟩,
    hFound, hAt.slash⟩

variable (h : Grown (Path.parents path) current tree tree')
include h

theorem isAt_of_closed (hClosed : tree.IsClosed) (hUp : ['.', '.'] ∉ Path.names path)
    (hAt : tree'.IsAt current path location entry) : tree.IsAt current path location entry := by
  obtain ⟨hPath, hWalk⟩ := resolve_eq_ok_iff.mp hAt.leads
  rcases h location with hSame | ⟨-, -, outer, hOuter, hLeads⟩
  · have hFound : tree.entry? location = some entry := hSame.symm.trans hAt.found
    exact ⟨resolve_eq_ok_iff.mpr ⟨hPath, h.walk_of_closed hClosed hUp hWalk (by simp [hFound])⟩,
      hFound, hAt.slash⟩
  · -- a directory made for a parent is further out than the path
    exfalso
    obtain ⟨between, hAbove, name, hName, hDot⟩ := Path.exists_isAbove_of_mem_parents hOuter
    obtain ⟨-, hWalk'⟩ := resolve_eq_ok_iff.mp hLeads
    rw [hAbove.names_eq, start_eq_of_isAbove hAbove] at hWalk
    obtain ⟨next, hNext, hLater⟩ := walk_append_eq_ok.mp hWalk
    obtain rfl : next = location := Except.ok.inj (hNext.symm.trans hWalk')
    rw [hAbove.names_eq, List.mem_append, not_or] at hUp
    have hNone := List.self_eq_append_right.mp (walk_eq hUp.2 hLater)
    exact hDot (by simpa using List.filter_eq_nil_iff.mp hNone name hName)

section

variable (hParent : ∀ parent, Path.parent? path = some parent → parent ≠ [] →
  ∃ found, tree.stat current parent = .ok found)
include hParent

/-- A parent of what is there is there, so none was made. -/
theorem entry?_of_parent (other : Location) : tree'.entry? other = tree.entry? other := by
  rcases h other with hSame | ⟨hNone, -, outer, hOuter, hLeads⟩
  · exact hSame
  · exfalso
    obtain ⟨parent, hSome, between, hAbove⟩ := Path.exists_of_mem_parents hOuter
    obtain ⟨found, hStat⟩ := hParent parent hSome hAbove.ne_nil
    obtain ⟨place, hAt⟩ := stat_eq_ok_iff.mp hStat
    obtain ⟨place', found', hLeads', hFound⟩ := exists_isAt_of_isAbove hAbove hAt
    obtain rfl : place' = other := Except.ok.inj ((h.resolve hLeads').symm.trans hLeads)
    rw [hNone] at hFound
    cases hFound

theorem isAt_of_parent {other : Text} (hAt : tree'.IsAt current other location entry) :
    tree.IsAt current other location entry := by
  have hSame := h.entry?_of_parent hParent
  refine ⟨resolve_mono (fun place hPlace => ?_) hAt.leads, (hSame location).symm.trans hAt.found,
    hAt.slash⟩
  rw [← hSame, hPlace]

end

end Grown

end FileTree

namespace FaultyWorld

variable {α β : Type} {path : Text} {paths : List Text}

/-- Whatever fails, `x` only makes directories, at some of the paths. -/
def OnlyMakes (paths : List Text) (x : StateM FaultyWorld α) : Prop :=
  ∀ w, ∃ tree, (x w).2.world = { w.world with tree := tree } ∧
    FileTree.Grown paths w.world.current w.world.tree tree

namespace OnlyMakes

theorem of_eq {x : StateM FaultyWorld α} (h : ∀ w, (x w).2.world = w.world) :
    OnlyMakes paths x :=
  fun w => ⟨w.world.tree, h w, .refl paths w.world.current w.world.tree⟩

theorem pure (a : α) : OnlyMakes paths (Pure.pure a : StateM FaultyWorld α) := of_eq fun _ => rfl

theorem bind {x : StateM FaultyWorld α} {f : α → StateM FaultyWorld β} (hx : OnlyMakes paths x)
    (hf : ∀ a, OnlyMakes paths (f a)) : OnlyMakes paths (x >>= f) := by
  intro w
  obtain ⟨middle, hFirst, hGrown⟩ := hx w
  obtain ⟨tree, hLater, hGrown'⟩ := hf (x w).1 (x w).2
  rw [hFirst] at hLater hGrown'
  exact ⟨tree, hLater, hGrown.trans hGrown'⟩

theorem exists? (path : Text) : OnlyMakes paths (shell.exists? path) := by
  refine bind (of_eq (stat_world path)) fun r => ?_
  cases r with
  | ok entry => exact pure true
  | error e => exact pure false

theorem isDirectory (path : Text) : OnlyMakes paths (shell.isDirectory path) := by
  refine bind (of_eq (stat_world path)) fun r => ?_
  split
  · exact pure true
  · exact pure false

theorem makeDirectory (hPath : path ∈ paths) : OnlyMakes paths (shell.makeDirectory path) := by
  intro w
  rcases makeDirectory_cases (w := w) rfl with ⟨e, -, hSame⟩ | ⟨-, tree, hTree, hWorld⟩
  · exact ⟨w.world.tree, hSame, .refl paths w.world.current w.world.tree⟩
  · exact ⟨tree, hWorld, .of_makeDirectory hPath hTree⟩

theorem settle (result : Except OsError Unit) (path : Text) :
    OnlyMakes paths (Shell.makeDirectories.settle shell result path) := by
  cases result with
  | ok => exact pure _
  | error e =>
    refine bind (isDirectory path) fun found => ?_
    cases found with
    | true => exact pure _
    | false => exact pure _

theorem makeDirectories {directories : List Text} (h : directories ⊆ paths) :
    OnlyMakes paths (shell.makeDirectories directories) := by
  induction directories with
  | nil => exact pure _
  | cons directory outer ih =>
    obtain ⟨hPath, hOuter⟩ := List.cons_subset.mp h
    refine bind (makeDirectory hPath) fun result => ?_
    split
    · exact pure _
    · -- a directory on the way is missing, or the operation says so
      refine bind (ih hOuter) fun made => ?_
      cases made with
      | error e => exact pure _
      | ok => exact bind (makeDirectory hPath) fun again => settle again directory
    · exact settle _ directory

end OnlyMakes

end FaultyWorld

end MarkdownEditor
