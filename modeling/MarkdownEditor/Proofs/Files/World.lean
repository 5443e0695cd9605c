import MarkdownEditor.Failure
import MarkdownEditor.Files.Shell

/-!
# Programs in a world

How programs of several steps run in a world, and which of them leave all of it alone but
for the notices they give.
-/

namespace MarkdownEditor.World

set_option autoImplicit false

variable {α β : Type} {w w' : World}

/-- The document in the file, or on the input if no file is named. -/
def document (w : World) : Option Text → Except OsError Text
  | some path => Shell.textOf (w.tree.read w.current path)
  | none => Shell.textOf (.ok w.inputBytes)

theorem bind_of_eq {σ : Type} {x : StateM σ α} {s s' : σ} {a : α} (h : x s = (a, s'))
    (f : α → StateM σ β) : (x >>= f) s = f a s' := by
  change (match x s with | (a, s) => f a s) = _
  rw [h]

theorem run_bind_of_ok {x : ExceptT Failure (StateM World) α} {a : α}
    (h : x.run w = (.ok a, w')) (f : α → ExceptT Failure (StateM World) β) :
    (x >>= f).run w = (f a).run w' := by
  change (match x.run w with | (r, w) => ExceptT.bindCont f r w) = _
  rw [h]
  rfl

theorem run_bind_lift (x : StateM World α) (f : α → ExceptT Failure (StateM World) β) :
    ((x : ExceptT Failure (StateM World) α) >>= f).run w = (f (x w).1).run (x w).2 :=
  run_bind_of_ok rfl f

section

variable {path source target : Text} {content : Bytes} {tree : FileTree} {e : OsError}

theorem change_cases (f : FileTree → Location → Except OsError FileTree) (w : World) :
    (∃ e, f w.tree w.current = .error e ∧ World.change f w = (.error e, w)) ∨
    ∃ tree, f w.tree w.current = .ok tree ∧ World.change f w = (.ok (), { w with tree := tree }) := by
  unfold World.change
  cases f w.tree w.current with
  | error e => exact .inl ⟨e, rfl, rfl⟩
  | ok tree => exact .inr ⟨tree, rfl, rfl⟩

theorem write_of_ok (h : w.tree.write w.current path content = .ok tree) :
    World.shell.write path content w = (.ok (), { w with tree := tree }) := by
  simp only [World.shell, World.change, h]

theorem write_of_error (h : w.tree.write w.current path content = .error e) :
    World.shell.write path content w = (.error e, w) := by
  simp only [World.shell, World.change, h]

theorem rename_of_ok (h : w.tree.rename w.current source target = .ok tree) :
    World.shell.rename source target w = (.ok (), { w with tree := tree }) := by
  simp only [World.shell, World.change, h]

theorem rename_of_error (h : w.tree.rename w.current source target = .error e) :
    World.shell.rename source target w = (.error e, w) := by
  simp only [World.shell, World.change, h]

theorem exists?_of_ok {entry : Entry} (h : w.tree.stat w.current path = .ok entry) :
    World.shell.exists? path w = (true, w) := by
  have hStat : World.shell.stat path w = (.ok entry, w) := congrArg (·, w) h
  exact bind_of_eq hStat _

theorem readText_of_ok {t : Text} (h : w.tree.read w.current path = .ok content)
    (hText : Text.decode? content = some t) : World.shell.readText path w = (.ok t, w) := by
  have hRead : World.shell.read path w = (.ok content, w) := congrArg (·, w) h
  refine (bind_of_eq hRead _).trans ?_
  rw [Shell.textOf, hText]
  rfl

end

/-- The world after `x` differs from the one before in new notices only. -/
def OnlyNotifies (x : StateM World α) : Prop :=
  ∀ w, ∃ notices, (x w).2 = { w with notices := notices ++ w.notices }

namespace OnlyNotifies

theorem of_eq {x : StateM World α} (h : ∀ w, (x w).2 = w) : OnlyNotifies x :=
  fun w => ⟨[], h w⟩

theorem pure (a : α) : OnlyNotifies (Pure.pure a : StateM World α) := of_eq fun _ => rfl

theorem bind {x : StateM World α} {f : α → StateM World β} (hx : OnlyNotifies x)
    (hf : ∀ a, OnlyNotifies (f a)) : OnlyNotifies (x >>= f) := by
  intro w
  obtain ⟨first, hFirst⟩ := hx w
  obtain ⟨later, hLater⟩ := hf (x w).1 (x w).2
  refine ⟨later ++ first, ?_⟩
  change (f (x w).1 (x w).2).2 = _
  rw [hLater, hFirst, List.append_assoc]

theorem notify (n : Notice) : OnlyNotifies (World.shell.notify n) := fun _ => ⟨[n], rfl⟩

theorem stat (path : Text) : OnlyNotifies (World.shell.stat path) := of_eq fun _ => rfl

theorem exists? (path : Text) : OnlyNotifies (World.shell.exists? path) := by
  refine bind (stat path) fun r => ?_
  cases r with
  | ok entry => exact pure true
  | error e => exact pure false

theorem isDirectory (path : Text) : OnlyNotifies (World.shell.isDirectory path) := by
  refine bind (stat path) fun r => ?_
  split
  · exact pure true
  · exact pure false

theorem readText (path : Text) : OnlyNotifies (World.shell.readText path) := of_eq fun _ => rfl

theorem forM {x : α → StateM World PUnit} (h : ∀ a, OnlyNotifies (x a)) (as : List α) :
    OnlyNotifies (as.forM x) := by
  induction as with
  | nil => exact pure PUnit.unit
  | cons a as ih => exact bind (h a) fun _ => ih

section Failing

variable {x : ExceptT Failure (StateM World) α} {f : α → ExceptT Failure (StateM World) β}

theorem throw (e : Failure) : OnlyNotifies (throw e : ExceptT Failure (StateM World) α).run :=
  of_eq fun _ => rfl

theorem lift {x : StateM World α} (h : OnlyNotifies x) :
    OnlyNotifies (x : ExceptT Failure (StateM World) α).run :=
  bind h fun a => pure (Except.ok a)

theorem bindExcept (hx : OnlyNotifies x.run) (hf : ∀ a, OnlyNotifies (f a).run) :
    OnlyNotifies (x >>= f).run := by
  have hCont (r : Except Failure α) : OnlyNotifies (ExceptT.bindCont f r) := by
    cases r with
    | ok a => exact hf a
    | error e => exact pure (Except.error e)
  exact bind hx hCont

end Failing

end OnlyNotifies

end MarkdownEditor.World
