import MarkdownEditor.Proofs.Files.Place
import MarkdownEditor.Proofs.Files.World

/-!
# Worlds in which operations fail

A plan says of each operation, one after the other, whether it fails before it is done. A
write that fails may have begun: what it has written by then stays. Every other operation
that fails changes nothing.
-/

namespace MarkdownEditor

set_option autoImplicit false

theorem World.write_cases (path : Text) (content : Bytes) (w : World) :
    (∃ e, World.shell.write path content w = (.error e, w)) ∨
    ∃ way, FileTree.IsPlace w.tree w.current path way ∧
      World.shell.write path content w =
        (.ok (), { w with tree := w.tree.set way (.file content) }) := by
  rcases World.change_cases (fun tree current => tree.write current path content) w with
    ⟨e, -, hChange⟩ | ⟨tree, hTree, hChange⟩
  · exact .inl ⟨e, hChange⟩
  · obtain ⟨way, hWay, rfl⟩ := FileTree.write_eq_ok_iff.mp hTree
    exact .inr ⟨way, hWay, hChange⟩

/-- With which error an operation fails, and after how many bytes if it is a write that had
begun. -/
structure OsFault where
  error : OsError
  written : Option Nat

/-- What a failed write leaves of the content. -/
def OsFault.spoil (fault : OsFault) (path : Text) (content : Bytes) (w : World) : World :=
  match fault.written with
  | none => w
  | some n => (World.shell.write path (content.take n) w).2

/-- A world and a plan for the operations to come. Those after its end do not fail. -/
structure FaultyWorld where
  world : World
  plan : List (Option OsFault)

namespace FaultyWorld

variable {α : Type}

/-- Does the operation, or fails as planned and leaves what `spoil` gives. -/
def attempt (operation : StateM World (Except OsError α)) (spoil : OsFault → World → World) :
    StateM FaultyWorld (Except OsError α) := fun w =>
  match w.plan with
  | some fault :: plan => (.error fault.error, ⟨spoil fault w.world, plan⟩)
  | _ => ((operation w.world).1, ⟨(operation w.world).2, w.plan.tail⟩)

def shell : Shell (StateM FaultyWorld) where
  stat path := attempt (World.shell.stat path) fun _ w => w
  read path := attempt (World.shell.read path) fun _ w => w
  write path content :=
    attempt (World.shell.write path content) fun fault => fault.spoil path content
  rename source target := attempt (World.shell.rename source target) fun _ w => w
  makeDirectory path := attempt (World.shell.makeDirectory path) fun _ w => w
  input := attempt World.shell.input fun _ w => w
  output t w := ((), { w with world := (World.shell.output t w.world).2 })
  notify n w := ((), { w with world := (World.shell.notify n w.world).2 })

variable {w w' : FaultyWorld} {path source target : Text} {content : Bytes}
  {result : Except OsError Unit}

theorem attempt_cases (operation : StateM World (Except OsError α))
    (spoil : OsFault → World → World) (w : FaultyWorld) :
    (∃ fault plan, attempt operation spoil w = (.error fault.error, ⟨spoil fault w.world, plan⟩)) ∨
    ∃ plan, attempt operation spoil w =
      ((operation w.world).1, ⟨(operation w.world).2, plan⟩) := by
  unfold attempt
  split
  · next fault plan _ => exact .inl ⟨fault, plan, rfl⟩
  · exact .inr ⟨w.plan.tail, rfl⟩

theorem stat_world (path : Text) (w : FaultyWorld) : (shell.stat path w).2.world = w.world := by
  rcases attempt_cases (World.shell.stat path) (fun _ w => w) w with ⟨fault, plan, h⟩ | ⟨plan, h⟩
  · exact congrArg (·.2.world) h
  · exact congrArg (·.2.world) h

/-- A question that is not planned to fail is answered from the tree. -/
theorem stat_of_next (hNext : w.plan.head?.join = none) (path : Text) :
    shell.stat path w =
      (w.world.tree.stat w.world.current path, ⟨w.world, w.plan.tail⟩) := by
  obtain ⟨world, plan⟩ := w
  cases plan with
  | nil => rfl
  | cons next plan =>
    cases next with
    | none => rfl
    | some fault => cases hNext

theorem exists?_of_ok {entry : Entry} (hNext : w.plan.head?.join = none)
    (h : w.world.tree.stat w.world.current path = .ok entry) :
    shell.exists? path w = (true, ⟨w.world, w.plan.tail⟩) := by
  have hStat := stat_of_next hNext path
  rw [h] at hStat
  exact World.bind_of_eq hStat _

theorem exists?_of_error {e : OsError} (hNext : w.plan.head?.join = none)
    (h : w.world.tree.stat w.world.current path = .error e) :
    shell.exists? path w = (false, ⟨w.world, w.plan.tail⟩) := by
  have hStat := stat_of_next hNext path
  rw [h] at hStat
  exact World.bind_of_eq hStat _

/-- An operation on the tree that fails, as planned or by itself, changes nothing. -/
theorem change_cases {f : FileTree → Location → Except OsError FileTree}
    (h : attempt (World.change f) (fun _ w => w) w = (result, w')) :
    (∃ e, result = .error e ∧ w'.world = w.world) ∨
    (result = .ok () ∧ ∃ tree, f w.world.tree w.world.current = .ok tree ∧
      w'.world = { w.world with tree := tree }) := by
  rcases attempt_cases (World.change f) (fun _ w => w) w with ⟨fault, plan, hFault⟩ | ⟨plan, hDone⟩
  · obtain ⟨rfl, rfl⟩ := Prod.mk.inj (h.symm.trans hFault)
    exact .inl ⟨fault.error, rfl, rfl⟩
  · obtain ⟨rfl, rfl⟩ := Prod.mk.inj (h.symm.trans hDone)
    rcases World.change_cases f w.world with ⟨e, -, hChange⟩ | ⟨tree, hTree, hChange⟩
    · exact .inl ⟨e, congrArg Prod.fst hChange, congrArg Prod.snd hChange⟩
    · exact .inr ⟨congrArg Prod.fst hChange, tree, hTree, congrArg Prod.snd hChange⟩

theorem rename_cases (h : shell.rename source target w = (result, w')) :
    (∃ e, result = .error e ∧ w'.world = w.world) ∨
    (result = .ok () ∧ ∃ tree, w.world.tree.rename w.world.current source target = .ok tree ∧
      w'.world = { w.world with tree := tree }) :=
  change_cases h

theorem makeDirectory_cases (h : shell.makeDirectory path w = (result, w')) :
    (∃ e, result = .error e ∧ w'.world = w.world) ∨
    (result = .ok () ∧ ∃ tree, w.world.tree.makeDirectory w.world.current path = .ok tree ∧
      w'.world = { w.world with tree := tree }) :=
  change_cases h

/-- A write that changes something puts a file at the place of the path, with all of the
content if it does not fail. -/
theorem write_cases (h : shell.write path content w = (result, w')) :
    (∃ e, result = .error e ∧ w'.world = w.world) ∨
    ∃ way written, FileTree.IsPlace w.world.tree w.world.current path way ∧
      w'.world = { w.world with tree := w.world.tree.set way (.file written) } ∧
      (result = .ok () → written = content) := by
  rcases attempt_cases (World.shell.write path content) (fun fault => fault.spoil path content) w
    with ⟨fault, plan, hFault⟩ | ⟨plan, hDone⟩
  · obtain ⟨rfl, rfl⟩ := Prod.mk.inj (h.symm.trans hFault)
    unfold OsFault.spoil
    cases fault.written with
    | none => exact .inl ⟨fault.error, rfl, rfl⟩
    | some n =>
      rcases World.write_cases path (content.take n) w.world with ⟨e, hWrite⟩ | ⟨way, hWay, hWrite⟩
      · exact .inl ⟨fault.error, rfl, congrArg Prod.snd hWrite⟩
      · exact .inr ⟨way, content.take n, hWay, congrArg Prod.snd hWrite, nofun⟩
  · obtain ⟨rfl, rfl⟩ := Prod.mk.inj (h.symm.trans hDone)
    rcases World.write_cases path content w.world with ⟨e, hWrite⟩ | ⟨way, hWay, hWrite⟩
    · exact .inl ⟨e, congrArg Prod.fst hWrite, congrArg Prod.snd hWrite⟩
    · exact .inr ⟨way, content, hWay, congrArg Prod.snd hWrite, fun _ => rfl⟩

end FaultyWorld

end MarkdownEditor
