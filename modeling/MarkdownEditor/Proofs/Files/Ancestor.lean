import MarkdownEditor.Proofs.Files.Place

/-!
# The parents of a path

The way to a path goes by way of each of its parents, and from there over at least one
proper name.
-/

namespace MarkdownEditor

set_option autoImplicit false

namespace Path

variable {path outer middle : Text} {between later : List Text}

/-- The way to the path goes by way of `outer`, and from there over the names `between`. -/
structure IsAbove (outer path : Text) (between : List Text) : Prop where
  nonempty : outer ≠ []
  front : outer <+: path
  names_eq : names path = names outer ++ between

namespace IsAbove

theorem refl (h : path ≠ []) : IsAbove path path [] :=
  ⟨h, List.prefix_refl path, (List.append_nil _).symm⟩

theorem trans (h : IsAbove outer middle between) (h' : IsAbove middle path later) :
    IsAbove outer path (between ++ later) where
  nonempty := h.nonempty
  front := h.front.trans h'.front
  names_eq := by rw [h'.names_eq, h.names_eq, List.append_assoc]

theorem ne_nil (h : IsAbove outer path between) : path ≠ [] := by
  rintro rfl
  exact h.nonempty (List.prefix_nil.mp h.front)

theorem isAbsolute_eq (h : IsAbove outer path between) : isAbsolute path = isAbsolute outer := by
  obtain ⟨rest, rfl⟩ := h.front
  exact isAbsolute_append h.nonempty rest

end IsAbove

/-- A path without what names nothing at its end does not end in a slash or in a dot that
stands alone. -/
theorem dropTrailing_ne (backwards rest : Text) :
    dropTrailing backwards ≠ '/' :: rest ∧ dropTrailing backwards ≠ '.' :: '/' :: rest := by
  fun_induction dropTrailing backwards with
  | case1 _ ih => exact ih
  | case2 _ ih => exact ih
  | case3 backwards hSlash hDot => exact ⟨hSlash rest, hDot rest⟩

/-- What is left of a path without what names nothing at its end is a directory part and a
name. -/
theorem exists_isSplit_dropTrailing (h : dropTrailing path.reverse ≠ []) :
    ∃ dir name dots, IsSplit (dropTrailing path.reverse).reverse dir name ∧
      (dir ≠ [] → name ≠ ['.']) ∧ names path = names (dropTrailing path.reverse).reverse ++ dots := by
  obtain ⟨dots, -, hNames⟩ := exists_names_dropTrailing path.reverse
  rw [List.reverse_reverse] at hNames
  have hLast := dropTrailing_ne path.reverse
  generalize dropTrailing path.reverse = backwards at h hNames hLast ⊢
  have hEnd : endsInSlash backwards.reverse = false := by
    rw [endsInSlash, List.getLast?_reverse]
    cases backwards with
    | nil => rfl
    | cons c backwards =>
      have hc : c ≠ '/' := fun hc => (hLast backwards).1 (congrArg (· :: backwards) hc)
      simpa using hc
  obtain ⟨dir, name, hSplit⟩ := exists_isSplit (List.reverse_ne_nil_iff.mpr h) hEnd
  refine ⟨dir, name, dots, hSplit, ?_, hNames⟩
  -- a dot behind a directory part would have been dropped
  rintro hDir rfl
  obtain ⟨before, rfl⟩ := hSplit.atSlash.resolve_left hDir
  refine (hLast before.reverse).2 ?_
  rw [← List.reverse_reverse backwards, hSplit.eq]
  simp

/-- A path with a parent ends, but for what names nothing, in a directory part and a name. -/
theorem exists_isSplit_of_parent? (h : parent? path = some outer) :
    ∃ front dir name dots, IsSplit front dir name ∧ (dir ≠ [] → name ≠ ['.']) ∧
      front <+: path ∧ names path = names front ++ dots ∧
      outer = if (dropTrailing dir.reverse).isEmpty && isAbsolute path then ['/']
        else (dropTrailing dir.reverse).reverse := by
  have hFront := prefix_dropTrailing path
  unfold parent? at h
  simp only at h
  split at h
  · cases h
  next hSome =>
  obtain ⟨dir, name, dots, hSplit, hName, hNames⟩ :=
    exists_isSplit_dropTrailing (by simpa using hSome)
  have hDrop := hSplit.dropWhile_reverse
  rw [List.reverse_reverse] at hDrop
  rw [hDrop] at h
  refine ⟨_, dir, name, dots, hSplit, hName, hFront, hNames, ?_⟩
  rw [← Option.some.injEq, ← h]
  split <;> rfl

/-- With another extension the path has another last name, or it is still the same path. -/
theorem withExtension_cases (path : Text) {extension : Text} (hSlash : '/' ∉ extension) :
    withExtension path extension = path ∨
    ∃ front dir name name' dots, IsSplit front dir name ∧ names path = names front ++ dots ∧
      IsSplit (withExtension path extension) dir name' := by
  by_cases hNil : dropTrailing path.reverse = []
  · refine .inl ?_
    simp only [withExtension, hNil]
    rfl
  obtain ⟨dir, name, dots, hSplit, -, hNames⟩ := exists_isSplit_dropTrailing hNil
  have hTake := hSplit.takeWhile_reverse
  have hDrop := hSplit.dropWhile_reverse
  rw [List.reverse_reverse] at hTake hDrop
  simp only [withExtension, hTake, hDrop, List.reverse_reverse]
  split
  · exact .inl rfl
  refine .inr ⟨(dropTrailing path.reverse).reverse, dir, name, ?_⟩
  split
  · exact ⟨['.', '.'], dots, hSplit, hNames, rfl, by decide, by decide, hSplit.atSlash⟩
  · refine ⟨stem name ++ ['.'] ++ extension, dots, hSplit, hNames, by simp only [List.append_assoc],
      ?_, by simp, hSplit.atSlash⟩
    simp [IsSplit.not_mem_stem hSplit.noSlash, hSlash]

/-- If the path does not go up, it does not with another extension, but for its end. -/
theorem not_mem_names_withExtension {extension last : Text} (hSlash : '/' ∉ extension)
    (hUp : ['.', '.'] ∉ names path)
    (hLast : (names (withExtension path extension)).getLast? = some last)
    (hName : last ≠ ['.', '.']) : ['.', '.'] ∉ names (withExtension path extension) := by
  rcases withExtension_cases path hSlash with hSame |
    ⟨front, dir, name, name', dots, hSplit, hNames, hSplit'⟩
  · rwa [hSame]
  · rw [hSplit'.names_eq, List.getLast?_concat, Option.some.injEq] at hLast
    rw [hNames, hSplit.names_eq] at hUp
    rw [hSplit'.names_eq, hLast]
    simp only [List.mem_append, not_or] at hUp
    simp [hUp.1.1, Ne.symm hName]

theorem exists_isAbove_of_parent? (h : parent? path = some outer) (hNil : outer ≠ []) :
    ∃ between, IsAbove outer path between ∧ ∃ n ∈ between, n ≠ ['.'] := by
  obtain ⟨front, dir, name, dots, hSplit, hName, hFront, hNames, rfl⟩ :=
    exists_isSplit_of_parent? h
  obtain ⟨dots', -, hDir⟩ := exists_names_dropTrailing dir.reverse
  rw [List.reverse_reverse] at hDir
  have hOuter : (dropTrailing dir.reverse).reverse <+: path :=
    (prefix_dropTrailing dir).trans ((hSplit.eq ▸ List.prefix_append dir name).trans hFront)
  have hAll : names path =
      names (dropTrailing dir.reverse).reverse ++ (dots' ++ name :: dots) := by
    rw [hNames, hSplit.names_eq, hDir]
    simp only [List.append_assoc, List.singleton_append]
  -- without a directory part the path is relative and its parent is empty
  have hRelative : dir = [] → isAbsolute path = false := by
    rintro rfl
    obtain ⟨rest, rfl⟩ := hFront
    have hNonempty : front ≠ [] := by simp [hSplit.eq, hSplit.nonempty]
    rw [isAbsolute_append hNonempty, hSplit.isAbsolute_eq]
    rfl
  have hSome : dir ≠ [] := by
    rintro rfl
    simp [hRelative rfl, dropTrailing] at hNil
  refine ⟨dots' ++ name :: dots, ?_, name, by simp, hName hSome⟩
  split at hNil
  · next hRoot =>
    simp only [Bool.and_eq_true, List.isEmpty_iff] at hRoot
    rw [if_pos (by simp [hRoot])]
    rw [hRoot.1] at hAll
    refine ⟨List.cons_ne_nil '/' [], ?_, hAll⟩
    cases path with
    | nil => cases hRoot.2
    | cons c rest =>
      obtain rfl : c = '/' := by simpa [isAbsolute] using hRoot.2
      exact ⟨rest, rfl⟩
  · next hOther =>
    rw [if_neg hOther]
    exact ⟨hNil, hOuter, hAll⟩

theorem exists_isAbove_of_mem_ancestors (h : outer ∈ ancestors path) :
    ∃ between, IsAbove outer path between := by
  unfold ancestors at h
  generalize path.length + 1 = steps at h
  induction steps generalizing path with
  | zero => cases h
  | succ steps ih =>
    rw [ancestorsWithin] at h
    split at h
    · cases h
    next hNil =>
    rw [List.isEmpty_iff] at hNil
    rcases List.mem_cons.mp h with rfl | hOuter
    · exact ⟨[], .refl hNil⟩
    cases hParent : parent? path with
    | none => simp [hParent] at hOuter
    | some parent =>
      obtain ⟨between, hAbove⟩ := ih (by simpa [hParent] using hOuter)
      obtain ⟨later, hAbove', -⟩ := exists_isAbove_of_parent? hParent hAbove.ne_nil
      exact ⟨_, hAbove.trans hAbove'⟩

/-- The parents of the path, the innermost first. -/
def parents (path : Text) : List Text := (parent? path).elim [] ancestors

theorem exists_of_mem_parents (h : outer ∈ parents path) :
    ∃ parent, parent? path = some parent ∧ ∃ between, IsAbove outer parent between := by
  unfold parents at h
  cases hParent : parent? path with
  | none =>
    rw [hParent] at h
    cases h
  | some parent =>
    rw [hParent] at h
    exact ⟨parent, rfl, exists_isAbove_of_mem_ancestors h⟩

theorem exists_isAbove_of_mem_parents (h : outer ∈ parents path) :
    ∃ between, IsAbove outer path between ∧ ∃ n ∈ between, n ≠ ['.'] := by
  obtain ⟨parent, hParent, later, hAbove⟩ := exists_of_mem_parents h
  obtain ⟨between, hAbove', n, hn, hDot⟩ := exists_isAbove_of_parent? hParent hAbove.ne_nil
  exact ⟨_, hAbove.trans hAbove', n, List.mem_append_right later hn, hDot⟩

end Path

namespace FileTree

variable {tree : FileTree} {current location : Location} {outer path : Text} {between : List Text}

theorem start_eq_of_isAbove (h : Path.IsAbove outer path between) (current : Location) :
    start current path = start current outer := by
  rw [start, start, h.isAbsolute_eq]

/-- Where a path leads to something, all its parents do. -/
theorem exists_isAt_of_isAbove (h : Path.IsAbove outer path between) {entry : Entry}
    (hAt : tree.IsAt current path location entry) :
    ∃ middle found, tree.resolve current outer = .ok middle ∧ tree.entry? middle = some found := by
  obtain ⟨⟨hNul, -, hSize⟩, hWalk⟩ := resolve_eq_ok_iff.mp hAt.leads
  rw [h.names_eq, start_eq_of_isAbove h] at hWalk
  obtain ⟨middle, hMiddle, hLater⟩ := walk_append_eq_ok.mp hWalk
  have hOuter : '\x00' ∉ outer ∧ outer ≠ [] ∧ outer.byteSize ≤ maxPathSize := by
    obtain ⟨rest, rfl⟩ := h.front
    rw [Text.byteSize_append] at hSize
    exact ⟨fun hMem => hNul (List.mem_append_left rest hMem), h.nonempty, by omega⟩
  have hFound : ∃ found, tree.entry? middle = some found := by
    cases between with
    | nil => exact ⟨entry, (Except.ok.inj hLater) ▸ hAt.found⟩
    | cons name between =>
      obtain ⟨next, hFirst, -⟩ := bind_eq_ok.mp hLater
      exact ⟨.directory, directory_of_follow hFirst⟩
  obtain ⟨found, hFound⟩ := hFound
  exact ⟨middle, found, resolve_eq_ok_iff.mpr ⟨hOuter, hMiddle⟩, hFound⟩

end FileTree

end MarkdownEditor
