import Offscreen.Overrides
import Offscreen.Proofs.ByteMap

/-!
# Overrides as the changes of a command

Changes that are made one after the other are put into the map of a command's changes in that order
(`Command.editAll_eq`). Overrides that are set for a command stand over the changes that it had
(`get?_applyTo`). A command without changes of its own gets exactly the overrides as its changes
(`applyTo_plain`).
-/

namespace Offscreen.Command
set_option autoImplicit false

/-- Sets a variable to a value, or takes it away where there is none. -/
def edit (command : Command) : Bytes × Option Bytes → Command
  | (name, some value) => command.set name value
  | (name, none) => command.remove name

/-- Makes changes one after the other. -/
def editAll (command : Command) (edits : List (Bytes × Option Bytes)) : Command :=
  edits.foldl edit command

theorem edit_eq (command : Command) (change : Bytes × Option Bytes) :
    command.edit change = { command with changes := command.changes.insert change.1 change.2 } := by
  obtain ⟨name, value | _⟩ := change <;> rfl

theorem editAll_eq (command : Command) (edits : List (Bytes × Option Bytes)) :
    command.editAll edits = { command with changes := command.changes.insertAll edits } := by
  induction edits generalizing command with
  | nil => rfl
  | cons change rest ih =>
    have later := ih (command.edit change)
    rw [edit_eq] at later
    exact (congrArg (·.editAll rest) (command.edit_eq change)).trans later

end Offscreen.Command

namespace Offscreen.Overrides

/-- The changes that set each variable to its value. -/
def changes (overrides : Overrides) : ByteMap (Option Bytes) where
  entries := overrides.values.entries.map fun entry => (entry.1, some entry.2)
  increasing := by
    rw [Increasing, List.pairwise_map]
    exact overrides.values.increasing

theorem get?_changes (overrides : Overrides) (name : Bytes) :
    overrides.changes.get? name = (overrides.get? name).map some := by
  simp only [changes, get?, ByteMap.get?, List.find?_map, Option.map_map]
  rfl

/-- Overrides that set each variable to the same value are the same. -/
theorem ext {a b : Overrides} (h : ∀ name, a.get? name = b.get? name) : a = b := by
  have same : a.values = b.values := ByteMap.ext h
  cases a
  cases b
  exact congrArg Overrides.mk same

theorem changes_injective {a b : Overrides} (h : a.changes = b.changes) : a = b := by
  apply ext
  intro name
  have held : (a.get? name).map some = (b.get? name).map some := by
    rw [← get?_changes, ← get?_changes, h]
  exact Option.map_injective (fun _ _ => Option.some.inj) held

/-- Overrides are set change by change. -/
theorem applyTo_eq_editAll (overrides : Overrides) (command : Command) :
    overrides.applyTo command = command.editAll overrides.changes.entries := by
  rw [Command.editAll, changes, List.foldl_map]
  rfl

theorem applyTo_eq (overrides : Overrides) (command : Command) :
    overrides.applyTo command =
      { command with changes := command.changes.insertAll overrides.changes.entries } :=
  (overrides.applyTo_eq_editAll command).trans (command.editAll_eq _)

/-- Overrides stand over the changes that a command had. -/
theorem get?_applyTo (overrides : Overrides) (command : Command) (name : Bytes) :
    (overrides.applyTo command).changes.get? name =
      ((overrides.get? name).map some).or (command.changes.get? name) := by
  rw [applyTo_eq, ByteMap.get?_insertAll, ByteMap.lookup_reverse_entries, get?_changes]

/-- A command without changes of its own gets exactly the overrides as its changes. -/
theorem applyTo_plain (overrides : Overrides) (program : Bytes) (args : List Bytes) :
    overrides.applyTo (.plain program args) = ⟨program, args, overrides.changes⟩ := by
  have all : (∅ : ByteMap (Option Bytes)).insertAll overrides.changes.entries = overrides.changes :=
    overrides.changes.insertAll_entries
  rw [applyTo_eq, Command.plain, all]

end Offscreen.Overrides
