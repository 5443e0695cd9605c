import MarkdownEditor.Files.Path

/-!
# Directories and names

A path that ends in a name is a directory part, empty or with a slash at its end, and the
name. Its parent and its variants with another extension are built from the two.
-/

namespace MarkdownEditor.Path

set_option autoImplicit false

variable {path dir name rest : Text}

theorem names_slash (rest : Text) : names ('/' :: rest) = names rest := by rw [names]

theorem names_singleton {c : Char} (hc : c ≠ '/') : names [c] = [[c]] := by simp [names]

theorem names_cons_slash {c : Char} (hc : c ≠ '/') (rest : Text) :
    names (c :: '/' :: rest) = [c] :: names rest := by
  rw [names.eq_def]
  simp [names_slash]

theorem names_cons {c : Char} (hc : c ≠ '/') (hRest : rest.head? ≠ some '/') {n : Text}
    {ns : List Text} (h : names rest = n :: ns) : names (c :: rest) = (c :: n) :: ns := by
  cases rest with
  | nil => simp [names] at h
  | cons d rest =>
    have hd : d ≠ '/' := fun h => hRest (congrArg some h)
    rw [names.eq_def]
    simp only [h]
    split <;> simp_all

theorem names_ne_nil {c : Char} (hc : c ≠ '/') (rest : Text) : names (c :: rest) ≠ [] := by
  intro h
  rw [names.eq_def] at h
  split at h <;> simp_all
  split at h <;> simp_all

theorem names_append_slash (dir rest : Text) :
    names (dir ++ '/' :: rest) = names dir ++ names rest := by
  induction dir with
  | nil => exact names_slash rest
  | cons c dir ih =>
    by_cases hc : c = '/'
    · subst hc
      rw [List.cons_append, names_slash, names_slash, ih]
    cases dir with
    | nil =>
      rw [List.singleton_append, names_cons_slash hc, names_singleton hc, List.singleton_append]
    | cons d dir =>
      by_cases hd : d = '/'
      · subst hd
        rw [names_slash, List.cons_append, names_slash] at ih
        rw [List.cons_append, List.cons_append, names_cons_slash hc, names_cons_slash hc, ih,
          List.cons_append]
      · cases hNames : names (d :: dir) with
        | nil => exact absurd hNames (names_ne_nil hd dir)
        | cons n ns =>
          have hHead (t : Text) : (d :: t).head? ≠ some '/' := fun h => hd (Option.some.inj h)
          rw [hNames, List.cons_append] at ih
          rw [names_cons hc (hHead dir) hNames]
          exact names_cons hc (hHead _) ih

theorem names_of_noSlash (hName : '/' ∉ name) (hNil : name ≠ []) : names name = [name] := by
  induction name with
  | nil => exact absurd rfl hNil
  | cons c name ih =>
    obtain ⟨hc, hLater⟩ := not_or.mp (fun h => hName (List.mem_cons.mpr h))
    cases name with
    | nil => exact names_singleton (Ne.symm hc)
    | cons d name =>
      have hHead : (d :: name).head? ≠ some '/' := by
        rintro ⟨⟩
        exact hLater List.mem_cons_self
      exact names_cons (Ne.symm hc) hHead (ih hLater (List.cons_ne_nil d name))

/-- The path is the directory part and the name behind it. -/
structure IsSplit (path dir name : Text) : Prop where
  eq : path = dir ++ name
  noSlash : '/' ∉ name
  nonempty : name ≠ []
  atSlash : dir = [] ∨ ∃ outer, dir = outer ++ ['/']

theorem names_append (hDir : dir = [] ∨ ∃ outer, dir = outer ++ ['/']) (rest : Text) :
    names (dir ++ rest) = names dir ++ names rest := by
  rcases hDir with rfl | ⟨outer, rfl⟩
  · rfl
  · have hOuter : names (outer ++ ['/']) = names outer := by
      rw [names_append_slash, names, List.append_nil]
    rw [hOuter, List.append_assoc, List.singleton_append, names_append_slash]

theorem exists_isSplit (hNil : path ≠ []) (hEnd : endsInSlash path = false) :
    ∃ dir name, IsSplit path dir name := by
  refine ⟨(path.reverse.dropWhile notSlash).reverse, (path.reverse.takeWhile notSlash).reverse,
    ?_, ?_, ?_, ?_⟩
  · rw [← List.reverse_append, List.takeWhile_append_dropWhile, List.reverse_reverse]
  · intro h
    have hAll : (path.reverse.takeWhile notSlash).all notSlash = true := List.all_takeWhile
    exact absurd (List.all_eq_true.mp hAll '/' (List.mem_reverse.mp h)) (by decide)
  · intro h
    cases hReverse : path.reverse with
    | nil => exact hNil (List.reverse_eq_nil_iff.mp hReverse)
    | cons c before =>
      have hLast : path.getLast? = some c := by
        rw [← List.head?_reverse, hReverse, List.head?_cons]
      have hc : notSlash c = true := by
        simpa [endsInSlash, hLast, notSlash] using hEnd
      rw [hReverse, List.takeWhile_cons_of_pos hc] at h
      simp at h
  · cases hDrop : path.reverse.dropWhile notSlash with
    | nil => exact .inl rfl
    | cons c before =>
      have hc : ¬ notSlash c = true := by
        have hHead := List.head?_dropWhile_not notSlash path.reverse
        rw [hDrop] at hHead
        simpa using hHead
      have hSlash : c = '/' := by simpa [notSlash] using hc
      exact .inr ⟨before.reverse, by rw [hSlash, List.reverse_cons]⟩

namespace IsSplit

theorem names_eq (h : IsSplit path dir name) : names path = names dir ++ [name] := by
  rw [h.eq, names_append h.atSlash, names_of_noSlash h.noSlash h.nonempty]

theorem isAbsolute_eq (h : IsSplit path dir name) : isAbsolute path = isAbsolute dir := by
  rw [h.eq]
  cases dir with
  | nil =>
    cases name with
    | nil => rfl
    | cons c name =>
      have hc : c ≠ '/' := fun hc => h.noSlash (hc ▸ List.mem_cons_self)
      simpa [isAbsolute] using hc
  | cons c dir => rfl

theorem takeWhile_reverse (h : IsSplit path dir name) :
    path.reverse.takeWhile notSlash = name.reverse := by
  have hName (c : Char) (hc : c ∈ name.reverse) : notSlash c = true := by
    have hSlash : c ≠ '/' := fun h' => h.noSlash (h' ▸ List.mem_reverse.mp hc)
    simpa [notSlash] using hSlash
  rw [h.eq, List.reverse_append, List.takeWhile_append_of_pos hName]
  rcases h.atSlash with rfl | ⟨outer, rfl⟩
  · simp
  · simp [notSlash]

theorem dropWhile_reverse (h : IsSplit path dir name) :
    path.reverse.dropWhile notSlash = dir.reverse := by
  have hCut : path.reverse.takeWhile notSlash ++ path.reverse.dropWhile notSlash = path.reverse :=
    List.takeWhile_append_dropWhile
  have hReverse : path.reverse = name.reverse ++ dir.reverse := by rw [h.eq, List.reverse_append]
  rw [h.takeWhile_reverse] at hCut
  exact List.append_cancel_left (hCut.trans hReverse)

/-- Nothing is dropped from the end of a path whose last name is not a dot. -/
theorem dropTrailing_reverse (h : IsSplit path dir name) (hDot : name ≠ ['.']) :
    dropTrailing path.reverse = path.reverse := by
  have hMem (c : Char) (hc : c ∈ name.reverse) : c ≠ '/' :=
    fun hSlash => h.noSlash (hSlash ▸ List.mem_reverse.mp hc)
  rw [h.eq, List.reverse_append]
  cases hReverse : name.reverse with
  | nil => exact absurd (List.reverse_eq_nil_iff.mp hReverse) h.nonempty
  | cons c before =>
    rw [hReverse] at hMem
    have hc := hMem c List.mem_cons_self
    cases before with
    | nil =>
      have hName : name = [c] := by
        rw [← List.reverse_reverse name, hReverse, List.reverse_singleton]
      have hcDot : c ≠ '.' := fun h => hDot (hName.trans (h ▸ rfl))
      rw [List.singleton_append, dropTrailing]
      · exact fun _ h => hc (List.cons.inj h).1
      · exact fun _ h => hcDot (List.cons.inj h).1
    | cons d before =>
      have hd := hMem d (List.mem_cons_of_mem c List.mem_cons_self)
      rw [List.cons_append, List.cons_append, dropTrailing]
      · exact fun _ h => hc (List.cons.inj h).1
      · exact fun _ h => hd (List.cons.inj (List.cons.inj h).2).1

theorem not_mem_stem (h : '/' ∉ name) : '/' ∉ stem name := by
  have hSuffix : (name.reverse.dropWhile (· != '.')).drop 1 ⊆ name.reverse :=
    fun _ hc => List.dropWhile_subset _ (List.drop_subset 1 _ hc)
  intro hStem
  rw [stem] at hStem
  split at hStem
  · exact h hStem
  · exact h (List.mem_reverse.mp (hSuffix (List.mem_reverse.mp hStem)))

theorem withExtension_isSplit (h : IsSplit path dir name) (hDot : name ≠ ['.'])
    (hDots : name ≠ ['.', '.']) {extension : Text} (hSlash : '/' ∉ extension) :
    ∃ name', IsSplit (withExtension path extension) dir name' := by
  have hName : ¬ ((name.isEmpty || decide (name = ['.']) || decide (name = ['.', '.'])) = true) := by
    simp [hDot, hDots, h.nonempty]
  have hStem := not_mem_stem h.noSlash
  simp only [withExtension, h.dropTrailing_reverse hDot, h.takeWhile_reverse, h.dropWhile_reverse,
    List.reverse_reverse]
  rw [if_neg hName]
  split
  · exact ⟨['.', '.'], rfl, by decide, by decide, h.atSlash⟩
  · refine ⟨stem name ++ ['.'] ++ extension, by simp only [List.append_assoc], ?_, by simp,
      h.atSlash⟩
    simp [hStem, hSlash]

/-- A path that goes up at its end has no extension to replace. -/
theorem withExtension_up (h : IsSplit path dir ['.', '.']) (extension : Text) :
    withExtension path extension = path := by
  simp only [withExtension, h.dropTrailing_reverse (by decide), h.takeWhile_reverse,
    List.reverse_reverse]
  rfl

theorem parent?_eq (h : IsSplit path dir name) (hDot : name ≠ ['.']) :
    parent? path =
      if (dropTrailing dir.reverse).isEmpty && isAbsolute path then some ['/']
      else some (dropTrailing dir.reverse).reverse := by
  have hSome : path.reverse.isEmpty = false := by
    simp [h.eq, h.nonempty]
  simp only [parent?, h.dropTrailing_reverse hDot, h.dropWhile_reverse, hSome, Bool.false_eq_true,
    if_false]

end IsSplit

theorem dropTrailing_suffix (backwards : Text) : dropTrailing backwards <:+ backwards := by
  fun_induction dropTrailing backwards with
  | case1 rest ih => exact ih.trans (List.suffix_cons '/' rest)
  | case2 rest ih =>
    exact ih.trans ((List.suffix_cons '/' rest).trans (List.suffix_cons '.' ('/' :: rest)))
  | case3 rest => exact List.suffix_refl rest

theorem prefix_dropTrailing (dir : Text) : (dropTrailing dir.reverse).reverse <+: dir := by
  have hFront := List.reverse_prefix.mpr (dropTrailing_suffix dir.reverse)
  rwa [List.reverse_reverse] at hFront

/-- What is dropped from the end of a path are dots. -/
theorem exists_names_dropTrailing (backwards : Text) : ∃ dots, (∀ n ∈ dots, n = ['.']) ∧
    names backwards.reverse = names (dropTrailing backwards).reverse ++ dots := by
  fun_induction dropTrailing backwards with
  | case1 rest ih =>
    rw [List.reverse_cons, names_append_slash, names, List.append_nil]
    exact ih
  | case2 rest ih =>
    obtain ⟨dots, hDots, hNames⟩ := ih
    refine ⟨dots ++ [['.']], by simpa [or_imp, forall_and] using hDots, ?_⟩
    rw [List.reverse_cons, List.reverse_cons, List.append_assoc, List.singleton_append,
      names_append_slash, names_singleton (by decide), hNames, List.append_assoc]
  | case3 => exact ⟨[], by simp, by rw [List.append_nil]⟩

theorem isAbsolute_append (hNil : dir ≠ []) (rest : Text) :
    isAbsolute (dir ++ rest) = isAbsolute dir := by
  cases dir with
  | nil => exact absurd rfl hNil
  | cons c dir => rfl

end MarkdownEditor.Path
