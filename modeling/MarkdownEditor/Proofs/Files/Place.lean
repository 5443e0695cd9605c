import MarkdownEditor.Files.Tree
import MarkdownEditor.Proofs.Files.Path

/-!
# Places of files

Where a path leads depends on nothing but which locations are directories, and writing,
moving and erasing files changes none of them. So a path whose last name is a proper one
keeps the place it names while files come and go.
-/

namespace MarkdownEditor.FileTree

set_option autoImplicit false

variable {tree tree' : FileTree} {current location other : Location} {path : Text}

theorem ne_nil_of_not_directory (h : tree.entry? location ≠ some .directory) : location ≠ [] := by
  rintro rfl
  exact h rfl

theorem entry?_of_ne_nil (h : location ≠ []) :
    tree.entry? location = (tree.entries.find? fun e => e.1 == location).map Prod.snd := by
  cases location with
  | nil => exact absurd rfl h
  | cons name location => rfl

theorem entry?_erase (h : location ≠ []) :
    entry? (tree.erase location) other = if other = location then none else tree.entry? other := by
  cases other with
  | nil => rw [if_neg (Ne.symm h)]; rfl
  | cons name rest =>
    rw [entry?_of_ne_nil (List.cons_ne_nil name rest), entry?_of_ne_nil (List.cons_ne_nil name rest),
      erase, List.find?_filter]
    split
    · next hEq =>
      subst hEq
      have hNone : (tree.entries.find? fun e => decide ((e.1 != name :: rest) = true ∧
          (e.1 == name :: rest) = true)) = none := by
        simp
      rw [hNone]
      rfl
    · next hNe =>
      refine congrArg (Option.map Prod.snd) (congrArg (List.find? · tree.entries) ?_)
      funext e
      by_cases he : e.1 = name :: rest
      · simp [he, hNe]
      · simp [he]

theorem entry?_set (h : location ≠ []) (entry : Entry) :
    entry? (tree.set location entry) other =
      if other = location then some entry else tree.entry? other := by
  by_cases hEq : other = location
  · subst hEq
    rw [entry?_of_ne_nil h, set, if_pos rfl]
    simp
  · have hErase : entry? (tree.erase location) other = tree.entry? other := by
      rw [entry?_erase h, if_neg hEq]
    rw [if_neg hEq, ← hErase]
    cases other with
    | nil => rfl
    | cons name rest =>
      rw [entry?_of_ne_nil (List.cons_ne_nil name rest),
        entry?_of_ne_nil (List.cons_ne_nil name rest), set]
      rw [List.find?_cons_of_neg (by simpa using Ne.symm hEq)]

/-- The two trees have the same directories. -/
def SameDirectories (tree tree' : FileTree) : Prop :=
  ∀ location, tree.entry? location = some .directory ↔ tree'.entry? location = some .directory

theorem SameDirectories.symm (h : SameDirectories tree tree') : SameDirectories tree' tree :=
  fun location => (h location).symm

theorem sameDirectories_set (h : tree.entry? location ≠ some .directory) (content : Bytes) :
    SameDirectories tree (tree.set location (.file content)) := by
  intro other
  rw [entry?_set (ne_nil_of_not_directory h)]
  split
  · next hEq => simpa [hEq] using h
  · exact Iff.rfl

theorem bind_eq_ok {ε α β : Type} {x : Except ε α} {f : α → Except ε β} {b : β} :
    (x >>= f) = .ok b ↔ ∃ a, x = .ok a ∧ f a = .ok b := by
  cases x with
  | error e => simp [bind, Except.bind]
  | ok a => simp [bind, Except.bind]

theorem directory_of_follow {name : Text} (h : tree.follow location name = .ok other) :
    tree.entry? location = some .directory := by
  unfold follow at h
  split at h
  · cases h
  · cases h
  · assumption

theorem follow_congr {name : Text} (h : tree.entry? location = some .directory)
    (h' : tree'.entry? location = some .directory) :
    tree.follow location name = tree'.follow location name := by
  rw [follow, follow, h, h']

theorem follow_dot (h : tree.follow location ['.'] = .ok other) : other = location := by
  have hDirectory := directory_of_follow h
  rw [follow, hDirectory] at h
  exact (Except.ok.inj h).symm

theorem follow_name {name : Text} (hName : ¬ isDots name = true)
    (h : tree.follow location name = .ok other) : other = location ++ [name] := by
  have hDirectory := directory_of_follow h
  simp only [isDots, Bool.or_eq_true, beq_iff_eq, not_or] at hName
  rw [follow, hDirectory] at h
  simp only [hName.1, hName.2, if_false] at h
  split at h
  · cases h
  · exact (Except.ok.inj h).symm

/-- Follows the names one after the other. -/
def walk (tree : FileTree) (location : Location) (names : List Text) : Except OsError Location :=
  names.foldlM tree.follow location

theorem walk_append_eq_ok {names names' : List Text} :
    tree.walk location (names ++ names') = .ok other ↔
      ∃ middle, tree.walk location names = .ok middle ∧ tree.walk middle names' = .ok other := by
  rw [walk, List.foldlM_append]
  exact bind_eq_ok

theorem walk_singleton (name : Text) : tree.walk location [name] = tree.follow location name := by
  rw [walk, List.foldlM_cons]
  cases tree.follow location name <;> rfl

/-- A tree with more directories leads the same ways. -/
theorem walk_mono (hMore : ∀ location, tree.entry? location = some .directory →
      tree'.entry? location = some .directory)
    {names : List Text} (h : tree.walk location names = .ok other) :
    tree'.walk location names = .ok other := by
  induction names generalizing location with
  | nil => exact h
  | cons name names ih =>
    -- a step that succeeds starts in a directory, and the other tree has it too
    obtain ⟨middle, hFirst, hLater⟩ := bind_eq_ok.mp h
    have hDirectory := directory_of_follow hFirst
    rw [follow_congr hDirectory (hMore location hDirectory)] at hFirst
    exact bind_eq_ok.mpr ⟨middle, hFirst, ih hLater⟩

theorem resolve_eq_ok_iff : tree.resolve current path = .ok location ↔
    ('\x00' ∉ path ∧ path ≠ [] ∧ path.byteSize ≤ maxPathSize) ∧
      tree.walk (start current path) (Path.names path) = .ok location := by
  rw [resolve, ← walk]
  split
  · next h => simp [List.contains_iff_mem.mp h]
  · next hNul =>
    rw [List.contains_iff_mem] at hNul
    split
    · next h => simp [List.isEmpty_iff.mp h]
    · next hNil =>
      rw [List.isEmpty_iff] at hNil
      split
      · next h => simp [Nat.not_le.mpr h]
      · next h => simp [hNul, hNil, Nat.not_lt.mp h]

theorem resolve_mono (hMore : ∀ location, tree.entry? location = some .directory →
      tree'.entry? location = some .directory)
    (h : tree.resolve current path = .ok location) : tree'.resolve current path = .ok location := by
  obtain ⟨hPath, hWalk⟩ := resolve_eq_ok_iff.mp h
  exact resolve_eq_ok_iff.mpr ⟨hPath, walk_mono hMore hWalk⟩

theorem resolve_congr (hSame : SameDirectories tree tree')
    (h : tree.resolve current path = .ok location) : tree'.resolve current path = .ok location :=
  resolve_mono (fun other => (hSame other).mp) h

/-- The path leads to the entry at the location. A slash at its end asks for a directory. -/
structure IsAt (tree : FileTree) (current : Location) (path : Text) (location : Location)
    (entry : Entry) : Prop where
  leads : tree.resolve current path = .ok location
  found : tree.entry? location = some entry
  slash : Path.endsInSlash path = true → entry = .directory

theorem stat_eq_ok_iff {entry : Entry} :
    tree.stat current path = .ok entry ↔ ∃ location, IsAt tree current path location entry := by
  rw [stat, bind_eq_ok]
  refine exists_congr fun location => ?_
  constructor
  · rintro ⟨hLeads, h⟩
    split at h
    · cases h
    · next hFound =>
      obtain rfl := Except.ok.inj h
      exact ⟨hLeads, hFound, fun _ => rfl⟩
    · next hFound =>
      split at h
      · cases h
      · next hSlash =>
        obtain rfl := Except.ok.inj h
        exact ⟨hLeads, hFound, fun hEnd => absurd hEnd hSlash⟩
  · rintro ⟨hLeads, hFound, hSlash⟩
    refine ⟨hLeads, ?_⟩
    rw [hFound]
    cases entry with
    | directory => rfl
    | file content => exact if_neg fun hEnd => nomatch hSlash hEnd

/-- The path names a place for a file, whether there is one or not. -/
structure IsPlace (tree : FileTree) (current : Location) (path : Text) (location : Location) :
    Prop where
  leads : tree.resolve current path = .ok location
  named : ∃ name, (Path.names path).getLast? = some name ∧ isDots name = false
  noSlash : Path.endsInSlash path = false
  free : tree.entry? location ≠ some .directory

namespace IsPlace

variable {content : Bytes}

theorem congr (hSame : SameDirectories tree tree') (h : IsPlace tree current path location) :
    IsPlace tree' current path location where
  leads := resolve_congr hSame h.leads
  named := h.named
  noSlash := h.noSlash
  free := fun hDirectory => h.free ((hSame location).mpr hDirectory)

theorem unique (h : IsPlace tree current path location) (h' : IsPlace tree current path other) :
    location = other :=
  Except.ok.inj (h.leads.symm.trans h'.leads)

theorem stat_of_file (h : IsPlace tree current path location)
    (hFile : tree.entry? location = some (.file content)) :
    tree.stat current path = .ok (.file content) := by
  refine bind_eq_ok.mpr ⟨location, h.leads, ?_⟩
  rw [hFile, h.noSlash]
  rfl

theorem read_of_file (h : IsPlace tree current path location)
    (hFile : tree.entry? location = some (.file content)) :
    tree.read current path = .ok content :=
  bind_eq_ok.mpr ⟨_, h.stat_of_file hFile, rfl⟩

theorem stat_of_none (h : IsPlace tree current path location)
    (hNone : tree.entry? location = none) : tree.stat current path = .error .notFound := by
  simp only [stat, h.leads, bind, Except.bind, hNone]

end IsPlace

theorem resolveNew_eq_ok_iff {dots : OsError} :
    tree.resolveNew current path dots = .ok location ↔
      tree.resolve current path = .ok location ∧
        ∃ name, (Path.names path).getLast? = some name ∧ isDots name = false := by
  rw [resolveNew, bind_eq_ok]
  cases hName : (Path.names path).getLast? with
  | none => simp
  | some name => cases hDots : isDots name <;> simp [hDots]

theorem write_eq_ok_iff {content : Bytes} : tree.write current path content = .ok tree' ↔
    ∃ location, IsPlace tree current path location ∧ tree' = tree.set location (.file content) := by
  rw [write, bind_eq_ok]
  constructor
  · rintro ⟨location, hNew, h⟩
    obtain ⟨hLeads, hNamed⟩ := resolveNew_eq_ok_iff.mp hNew
    split at h
    · cases h
    · next hFree =>
      simp only [Bool.or_eq_true, decide_eq_true_eq, not_or, Bool.not_eq_true] at hFree
      exact ⟨location, ⟨hLeads, hNamed, hFree.1, hFree.2⟩, (Except.ok.inj h).symm⟩
  · rintro ⟨location, hPlace, rfl⟩
    refine ⟨location, resolveNew_eq_ok_iff.mpr ⟨hPlace.leads, hPlace.named⟩, ?_⟩
    rw [hPlace.noSlash, Bool.false_or, if_neg (by simpa using hPlace.free)]

theorem rename_eq_ok_iff {target : Text} : tree.rename current path target = .ok tree' ↔
    ∃ location location' content, IsPlace tree current path location ∧
      IsPlace tree current target location' ∧ tree.entry? location = some (.file content) ∧
      tree' = (tree.erase location).set location' (.file content) := by
  rw [rename, bind_eq_ok]
  constructor
  · rintro ⟨location, hSource, h⟩
    obtain ⟨location', hTarget, h⟩ := bind_eq_ok.mp h
    obtain ⟨hLeads, hNamed⟩ := resolveNew_eq_ok_iff.mp hSource
    obtain ⟨hLeads', hNamed'⟩ := resolveNew_eq_ok_iff.mp hTarget
    split at h
    · cases h
    · cases h
    · next content hEntry =>
      split at h
      · cases h
      · next hOpen =>
        simp only [Bool.or_eq_true, not_or, Bool.not_eq_true] at hOpen
        split at h
        · cases h
        · next hFree =>
          exact ⟨location, location', content, ⟨hLeads, hNamed, hOpen.1, by simp [hEntry]⟩,
            ⟨hLeads', hNamed', hOpen.2, hFree⟩, hEntry, (Except.ok.inj h).symm⟩
  · rintro ⟨location, location', content, hSource, hTarget, hEntry, rfl⟩
    refine ⟨location, resolveNew_eq_ok_iff.mpr ⟨hSource.leads, hSource.named⟩, ?_⟩
    refine bind_eq_ok.mpr
      ⟨location', resolveNew_eq_ok_iff.mpr ⟨hTarget.leads, hTarget.named⟩, ?_⟩
    simp only [hEntry, hSource.noSlash, hTarget.noSlash, Bool.or_self, Bool.false_eq_true, if_false]
    rw [if_neg hTarget.free]

theorem makeDirectory_eq_ok_iff : tree.makeDirectory current path = .ok tree' ↔
    ∃ location, (tree.resolve current path = .ok location ∧
        ∃ name, (Path.names path).getLast? = some name ∧ isDots name = false) ∧
      tree.entry? location = none ∧ tree' = tree.set location .directory := by
  rw [makeDirectory, bind_eq_ok]
  refine exists_congr fun location => and_congr resolveNew_eq_ok_iff ?_
  cases hEntry : tree.entry? location with
  | none => simp [eq_comm]
  | some entry => simp

/-- The tree after the content was written to one location and moved from there to another. -/
def replaced (tree : FileTree) (way location : Location) (content : Bytes) : FileTree :=
  ((tree.set way (.file content)).erase way).set location (.file content)

section

variable {way : Location} {content : Bytes} {source : Text}

theorem write_rename_eq_ok_iff :
    (∃ middle, tree.write current source content = .ok middle ∧
      middle.rename current source path = .ok tree') ↔
    ∃ way location, IsPlace tree current source way ∧ IsPlace tree current path location ∧
      tree' = tree.replaced way location content := by
  constructor
  · rintro ⟨middle, hWrite, hRename⟩
    obtain ⟨way, hSource, rfl⟩ := write_eq_ok_iff.mp hWrite
    -- the move follows both paths in the tree with the new file, where they lead as before
    have hSame := sameDirectories_set hSource.free content
    obtain ⟨source', location, moved, hSource', hTarget, hMoved, rfl⟩ :=
      rename_eq_ok_iff.mp hRename
    obtain rfl : source' = way := hSource'.unique (hSource.congr hSame)
    rw [entry?_set (ne_nil_of_not_directory hSource.free), if_pos rfl] at hMoved
    obtain rfl : content = moved := Entry.file.inj (Option.some.inj hMoved)
    exact ⟨source', location, hSource, hTarget.congr hSame.symm, rfl⟩
  · rintro ⟨way, location, hSource, hTarget, rfl⟩
    have hSame := sameDirectories_set hSource.free content
    refine ⟨_, write_eq_ok_iff.mpr ⟨way, hSource, rfl⟩, ?_⟩
    refine rename_eq_ok_iff.mpr
      ⟨way, location, content, hSource.congr hSame, hTarget.congr hSame, ?_, rfl⟩
    rw [entry?_set (ne_nil_of_not_directory hSource.free), if_pos rfl]

variable (hWay : tree.entry? way ≠ some .directory)
  (hLocation : tree.entry? location ≠ some .directory)
include hWay hLocation

theorem entry?_replaced : entry? (tree.replaced way location content) other =
    if other = location then some (.file content)
    else if other = way then none else tree.entry? other := by
  rw [replaced, entry?_set (ne_nil_of_not_directory hLocation),
    entry?_erase (ne_nil_of_not_directory hWay), entry?_set (ne_nil_of_not_directory hWay)]
  split
  · rfl
  · split <;> rfl

theorem sameDirectories_replaced (content : Bytes) :
    SameDirectories tree (tree.replaced way location content) := by
  intro other
  rw [entry?_replaced hWay hLocation]
  split
  · next hEq => simpa [hEq] using hLocation
  · split
    · next hEq => simpa [hEq] using hWay
    · exact Iff.rfl

end

theorem start_eq {dir name : Text} (h : Path.IsSplit path dir name) (current : Location) :
    start current path = start current dir := by
  rw [start, start, h.isAbsolute_eq]

theorem IsPlace.exists_isSplit (h : IsPlace tree current path location) :
    ∃ dir name, Path.IsSplit path dir name :=
  Path.exists_isSplit (resolve_eq_ok_iff.mp h.leads).1.2.1 h.noSlash

/-- The place is a name in the directory to which the directory part of the path leads. -/
theorem IsPlace.location_eq {dir name : Text} (h : IsPlace tree current path location)
    (hSplit : Path.IsSplit path dir name) :
    isDots name = false ∧ ∃ directory,
      tree.walk (start current dir) (Path.names dir) = .ok directory ∧
        tree.entry? directory = some .directory ∧ location = directory ++ [name] := by
  obtain ⟨last, hLast, hDots⟩ := h.named
  rw [hSplit.names_eq, List.getLast?_concat, Option.some.injEq] at hLast
  subst hLast
  obtain ⟨-, hWalk⟩ := resolve_eq_ok_iff.mp h.leads
  rw [hSplit.names_eq, start_eq hSplit] at hWalk
  obtain ⟨directory, hDirectory, hLast⟩ := walk_append_eq_ok.mp hWalk
  rw [walk_singleton] at hLast
  exact ⟨hDots, directory, hDirectory, directory_of_follow hLast,
    follow_name (by simp [hDots]) hLast⟩

/-- Two paths with the same directory part name the same place only if they are the same. -/
theorem IsPlace.path_eq {path' dir name name' : Text} (h : IsPlace tree current path location)
    (h' : IsPlace tree current path' location) (hSplit : Path.IsSplit path dir name)
    (hSplit' : Path.IsSplit path' dir name') : path = path' := by
  obtain ⟨-, directory, hWalk, -, hEq⟩ := h.location_eq hSplit
  obtain ⟨-, directory', hWalk', -, hEq'⟩ := h'.location_eq hSplit'
  obtain rfl : directory = directory' := Except.ok.inj (hWalk.symm.trans hWalk')
  have hName : [name] = [name'] := List.append_cancel_left (hEq.symm.trans hEq')
  rw [hSplit.eq, hSplit'.eq, List.cons.inj hName |>.1]

/-- Dots lead from a directory to itself. -/
theorem walk_append_dots {names dots : List Text} (hDots : ∀ n ∈ dots, n = ['.'])
    (h : tree.walk location (names ++ dots) = .ok other) :
    tree.walk location names = .ok other := by
  obtain ⟨middle, hMiddle, hLater⟩ := walk_append_eq_ok.mp h
  clear h
  induction dots with
  | nil => exact (Except.ok.inj hLater) ▸ hMiddle
  | cons n dots ih =>
    obtain ⟨hDot, hDots⟩ := List.forall_mem_cons.mp hDots
    obtain ⟨middle', hFirst, hRest⟩ := bind_eq_ok.mp hLater
    obtain rfl : middle' = middle := follow_dot (hDot ▸ hFirst)
    exact ih hDots hRest

theorem stat_root (tree : FileTree) (current : Location) :
    tree.stat current ['/'] = .ok .directory :=
  bind_eq_ok.mpr ⟨[], resolve_eq_ok_iff.mpr ⟨by decide, rfl⟩, rfl⟩

/-- The parent of a path that names a place is there. -/
theorem IsPlace.stat_parent {parent : Text} (h : IsPlace tree current path location)
    (hParent : Path.parent? path = some parent) (hNil : parent ≠ []) :
    tree.stat current parent = .ok .directory := by
  obtain ⟨dir, name, hSplit⟩ := h.exists_isSplit
  obtain ⟨hDots, directory, hWalk, hDirectory, -⟩ := h.location_eq hSplit
  obtain ⟨⟨hNul, -, hSize⟩, -⟩ := resolve_eq_ok_iff.mp h.leads
  have hDot : name ≠ ['.'] := by
    rintro rfl
    exact absurd hDots (by decide)
  rw [hSplit.parent?_eq hDot] at hParent
  split at hParent
  · obtain rfl := Option.some.inj hParent
    exact stat_root tree current
  · obtain rfl := Option.some.inj hParent
    -- the parent is the directory part of the path up to what names nothing at its end
    obtain ⟨rest, hRest⟩ := Path.prefix_dropTrailing dir
    obtain ⟨dots, hDotted, hNames⟩ := Path.exists_names_dropTrailing dir.reverse
    rw [List.reverse_reverse] at hNames
    have hOuter := walk_append_dots hDotted (hNames ▸ hWalk)
    replace hRest := hRest.symm
    generalize (Path.dropTrailing dir.reverse).reverse = outer at hRest hOuter hNil
    have hStart : start current dir = start current outer := by
      rw [start, start, hRest, Path.isAbsolute_append hNil]
    rw [hSplit.eq, hRest] at hNul hSize
    simp only [List.mem_append, not_or, Text.byteSize_append] at hNul hSize
    refine bind_eq_ok.mpr ⟨directory, resolve_eq_ok_iff.mpr ⟨⟨hNul.1.1, hNil, ?_⟩, ?_⟩, ?_⟩
    · omega
    · rw [← hStart]
      exact hOuter
    · rw [hDirectory]

end MarkdownEditor.FileTree
