import Offscreen.Proofs.Settings
import Mathlib.Logic.Function.Iterate

/-!
# Overrides over the changes of a command

Overrides that are set for a command lie over the changes that it had: they decide each variable that they
set, and every other one stays as it was (`Overlaid`). That fixes the command (`Overlaid.unique`), so to
set overrides again changes nothing, and to set two one after the other is to set what both of them set
(`overrides_overlay`).
-/

namespace Offscreen.Overrides
set_option autoImplicit false

/-- What overrides make of a command. -/
structure Overlaid (overrides : Overrides) (before after : Command) : Prop where
  program : after.program = before.program
  args : after.args = before.args
  /-- Each variable is changed once, in the order of the names. -/
  increasing : after.changes.keys.Pairwise (· < ·)
  /-- Also where the command had taken the variable away. -/
  overridden : ∀ name value, overrides.get? name = some value → after.changes.get? name = some (some value)
  kept : ∀ name, overrides.get? name = none → after.changes.get? name = before.changes.get? name

section

variable {overrides later : Overrides} {before middle after : Command}

/-- What overrides make of a command is fixed. -/
theorem Overlaid.unique {after' : Command} (h : Overlaid overrides before after)
    (h' : Overlaid overrides before after') : after = after' := by
  have program : after.program = after'.program := h.program.trans h'.program.symm
  have args : after.args = after'.args := h.args.trans h'.args.symm
  have changes : after.changes = after'.changes := by
    apply ByteMap.ext
    intro name
    cases set : overrides.get? name with
    | none => exact (h.kept name set).trans (h'.kept name set).symm
    | some value => exact (h.overridden name value set).trans (h'.overridden name value set).symm
  cases after
  cases after'
  subst program args changes
  rfl

theorem overlaid_applyTo (overrides : Overrides) (command : Command) :
    Overlaid overrides command (overrides.applyTo command) where
  program := by rw [applyTo_eq]
  args := by rw [applyTo_eq]
  increasing := (overrides.applyTo command).changes.keys_increasing
  overridden := by
    intro name value set
    rw [get?_applyTo, set]
    rfl
  kept := by
    intro name unset
    rw [get?_applyTo, unset]
    rfl

/-- Two overrides one after the other lie over a command as what both of them set. -/
theorem Overlaid.trans (first : Overlaid overrides before middle) (second : Overlaid later middle after) :
    Overlaid (ofSettings (overrides.values.entries ++ later.values.entries)) before after := by
  have both : ∀ name, (ofSettings (overrides.values.entries ++ later.values.entries)).get? name =
      (later.get? name).or (overrides.get? name) := by
    intro name
    rw [get?_ofSettings, lastValue?_append, lastValue?_entries, lastValue?_entries]
  refine ⟨second.program.trans first.program, second.args.trans first.args, second.increasing, ?_, ?_⟩
  · intro name value set
    rw [both, Option.or_eq_some_iff] at set
    rcases set with here | ⟨absent, earlier⟩
    · exact second.overridden name value here
    · exact (second.kept name absent).trans (first.overridden name value earlier)
  · intro name unset
    rw [both, Option.or_eq_none_iff] at unset
    exact (second.kept name unset.1).trans (first.kept name unset.2)

/-- Overrides that lie over a command already change nothing. -/
theorem Overlaid.applyTo_eq_self (h : Overlaid overrides before after) : overrides.applyTo after = after := by
  have again := h.trans (overlaid_applyTo overrides after)
  have same : ofSettings (overrides.values.entries ++ overrides.values.entries) = overrides := by
    apply ext
    intro name
    rw [get?_ofSettings, lastValue?_append, lastValue?_entries, Option.or_self]
  rw [same] at again
  exact again.unique h

end

theorem overlaid_iterate (overrides : Overrides) (command : Command) (n : Nat) :
    Overlaid overrides command (overrides.applyTo^[n + 1] command) := by
  induction n with
  | zero => exact overlaid_applyTo overrides command
  | succ n ih =>
    rw [Function.iterate_succ_apply', ih.applyTo_eq_self]
    exact ih

/-- **Overrides overlay the changes of a command**, whatever the command has set and taken away before. To
set them several times is to set them once, and two overrides one after the other are set as one. -/
theorem overrides_overlay (program : Bytes) (args : List Bytes) (edits : List (Bytes × Option Bytes))
    (overrides : Overrides) :
    let command := (Command.plain program args).editAll edits
    (command.program = program ∧ command.args = args ∧
      ∀ name, command.changes.get? name = edits.reverse.lookup name) ∧
    (∀ n, Overlaid overrides command (overrides.applyTo^[n + 1] command) ∧
      overrides.applyTo^[n + 1] command = overrides.applyTo command) ∧
    ∀ later : Overrides, later.applyTo (overrides.applyTo command) =
      (ofSettings (overrides.values.entries ++ later.values.entries)).applyTo command := by
  intro command
  refine ⟨?_, ?_, ?_⟩
  · have made : command = ⟨program, args, ByteMap.empty.insertAll edits⟩ := Command.editAll_eq _ edits
    have held : ∀ name, command.changes.get? name = edits.reverse.lookup name := by
      intro name
      rw [made, ByteMap.get?_insertAll, ByteMap.get?_empty, Option.or_none]
    exact ⟨by rw [made], by rw [made], held⟩
  · intro n
    have several := overlaid_iterate overrides command n
    exact ⟨several, several.unique (overlaid_applyTo overrides command)⟩
  · intro later
    have first := overlaid_applyTo overrides command
    have second := overlaid_applyTo later (overrides.applyTo command)
    exact (first.trans second).unique (overlaid_applyTo _ command)

end Offscreen.Overrides
