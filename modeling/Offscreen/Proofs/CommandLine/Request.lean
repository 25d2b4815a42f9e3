import Offscreen.CommandLine.Request
import Offscreen.Proofs.CommandLine.Reader

/-!
# What a command line asks for

A request is read exactly if the words spell a line that is proper, and it is what that line asks for
(`Request.read_eq_ok_iff`): the action of its inner words, with the settings of both scopes.
-/

namespace Offscreen.CommandLine
set_option autoImplicit false

variable {environment : Variables}

/-! ## Settings -/

namespace Fallback
variable {fallback : Fallback} {given outer inner : Given} {setting : Setting}

/-- Whether the variable of an option can be read in a scope: it is judged only where the scope was not
given the option. -/
def Allows (fallback : Fallback) (environment : Variables) (given : Given) : Prop :=
  given.value? fallback.key = none →
    ∀ value, environment.get? fallback.name = some value → fallback.key.Accepts value

/-- The setting of an option in a scope, if the variable can be read. -/
def chosen (fallback : Fallback) (environment : Variables) (given : Given) : Setting :=
  match given.value? fallback.key, environment.get? fallback.name with
  | some value, _ => ⟨value, .commandLine⟩
  | none, some value => ⟨value, .environment⟩
  | none, none => ⟨fallback.standard, .standard⟩

/-- The value of an option of both scopes: what the inner one was given is stronger than what the outer
one was given, and that is stronger than the variable. -/
def value (fallback : Fallback) (environment : Variables) (outer inner : Given) : Bytes :=
  ((inner.value? fallback.key).or ((outer.value? fallback.key).or
    (environment.get? fallback.name))).getD fallback.standard

theorem setting_eq_ok_iff : fallback.setting environment given = .ok setting ↔
    fallback.Allows environment given ∧ setting = fallback.chosen environment given := by
  have symm : ∀ other, other = setting ↔ setting = other := fun _ => eq_comm
  cases own : given.value? fallback.key with
  | some value => simp [Fallback.setting, Allows, chosen, own, symm]
  | none =>
    cases varies : environment.get? fallback.name with
    | none => simp [Fallback.setting, Allows, chosen, own, varies, symm]
    | some value =>
      simp only [Fallback.setting, Allows, chosen, own, varies, Option.some.injEq, forall_const,
        forall_eq', ← Key.check_eq_ok_iff]
      constructor
      · intro h
        obtain ⟨⟨⟩, checked, ⟨⟩⟩ := bind_eq_ok_iff.1 h
        exact ⟨checked, rfl⟩
      · rintro ⟨checked, rfl⟩
        exact bind_eq_ok_iff.2 ⟨(), checked, rfl⟩

/-- Neither the variable nor the default of the inner scope overrides what the outer one was given. -/
theorem value_merge_chosen :
    ((fallback.chosen environment outer).merge (fallback.chosen environment inner)).value =
      fallback.value environment outer inner := by
  cases innermost : inner.value? fallback.key <;> cases outermost : outer.value? fallback.key <;>
    cases varies : environment.get? fallback.name <;>
    simp [chosen, value, Setting.merge, Source.strength, innermost, outermost, varies]

end Fallback

/-- The options of every scope, with what stands in for them. -/
def fallbacks : List Fallback := [.wrenchBin, .cargo]

theorem Settings.of_eq_ok_iff {given : Given} {settings : Settings} :
    Settings.of environment given = .ok settings ↔
      (∀ fallback ∈ fallbacks, fallback.Allows environment given) ∧
        settings = ⟨Fallback.wrenchBin.chosen environment given,
          Fallback.cargo.chosen environment given, given.raised .verbose⟩ := by
  simp only [fallbacks, List.forall_mem_cons, List.not_mem_nil, false_implies, implies_true, and_true]
  constructor
  · intro h
    obtain ⟨wrenchBin, first, h⟩ := bind_eq_ok_iff.1 h
    obtain ⟨cargo, second, h⟩ := bind_eq_ok_iff.1 h
    obtain ⟨allowed, rfl⟩ := Fallback.setting_eq_ok_iff.1 first
    obtain ⟨allowed', rfl⟩ := Fallback.setting_eq_ok_iff.1 second
    cases h
    exact ⟨⟨allowed, allowed'⟩, rfl⟩
  · rintro ⟨⟨allowed, allowed'⟩, rfl⟩
    refine bind_eq_ok_iff.2 ⟨_, Fallback.setting_eq_ok_iff.2 ⟨allowed, rfl⟩, ?_⟩
    exact bind_eq_ok_iff.2 ⟨_, Fallback.setting_eq_ok_iff.2 ⟨allowed', rfl⟩, rfl⟩

/-! ## Lines -/

namespace Line

/-- What the tool itself was given. -/
def outerGiven (line : Line) : Given := .of line.outer []

/-- What the action was given. -/
def innerGiven (line : Line) : Given := .of line.inner line.words

/-- What a line must be to be carried out. -/
structure Proper (environment : Variables) (line : Line) : Prop where
  outer : line.outerGiven.Proper .tool
  inner : line.innerGiven.Proper line.scope
  allowed : ∀ fallback ∈ fallbacks,
    fallback.Allows environment line.outerGiven ∧ fallback.Allows environment line.innerGiven

/-- What a line asks for. `reftest` asks for nothing without a word. -/
def request? (environment : Variables) (line : Line) : Option Request :=
  (Named.action ⟨line.scope, line.innerGiven⟩).map fun action =>
    ⟨Fallback.wrenchBin.value environment line.outerGiven line.innerGiven,
      Fallback.cargo.value environment line.outerGiven line.innerGiven,
      line.outerGiven.raised .verbose || line.innerGiven.raised .verbose, action⟩

end Line

/-! ## Requests -/

variable {scope : Scope} {words : List Bytes} {settings : Settings} {named : Named} {request : Request}

theorem readNamed_eq_ok_iff : readNamed environment scope words = .ok (settings, named) ↔
    Progress.start.readAction scope words = .ok named.given ∧
      Settings.of environment named.given = .ok settings ∧ named.scope = scope ∧
      ¬(scope = .reftest ∧ named.given.words = []) := by
  constructor
  · intro h
    obtain ⟨given, read, h⟩ := bind_eq_ok_iff.1 h
    obtain ⟨own, set, h⟩ := bind_eq_ok_iff.1 h
    split at h
    · cases h
    · rename_i enough
      cases h
      exact ⟨read, set, rfl, by simpa using enough⟩
  · rintro ⟨read, set, rfl, enough⟩
    refine bind_eq_ok_iff.2 ⟨_, read, bind_eq_ok_iff.2 ⟨_, set, ?_⟩⟩
    rw [if_neg (by simpa using enough)]
    rfl

theorem Reading.of_eq_ok_iff : Reading.of environment words = .ok ⟨settings, some named⟩ ↔
    ∃ after rest outer inner, Progress.start.readTool words = .ok (after, some (named.scope, rest)) ∧
      readNamed environment named.scope rest = .ok (inner, named) ∧
      (∃ given, after.settle = .ok given ∧ Settings.of environment given = .ok outer) ∧
      settings = outer.merge inner := by
  constructor
  · intro h
    obtain ⟨⟨after, rest⟩, read, h⟩ := bind_eq_ok_iff.1 h
    cases rest with
    | none =>
      obtain ⟨given, settled, h⟩ := bind_eq_ok_iff.1 h
      obtain ⟨outer, set, ⟨⟩⟩ := bind_eq_ok_iff.1 h
    | some rest =>
      obtain ⟨⟨inner, other⟩, readInner, h⟩ := bind_eq_ok_iff.1 h
      obtain ⟨given, settled, h⟩ := bind_eq_ok_iff.1 h
      obtain ⟨outer, set, ⟨⟩⟩ := bind_eq_ok_iff.1 h
      obtain ⟨-, -, same, -⟩ := readNamed_eq_ok_iff.1 readInner
      rw [same]
      exact ⟨after, rest.2, outer, inner, read, readInner, ⟨given, settled, set⟩, rfl⟩
  · rintro ⟨after, rest, outer, inner, read, readInner, ⟨given, settled, set⟩, rfl⟩
    refine bind_eq_ok_iff.2 ⟨_, read, bind_eq_ok_iff.2 ⟨_, readInner, ?_⟩⟩
    exact bind_eq_ok_iff.2 ⟨given, settled, bind_eq_ok_iff.2 ⟨outer, set, rfl⟩⟩

theorem Request.read_eq_ok_iff_reading : Request.read environment words = .ok request ↔
    ∃ settings named action, Reading.of environment words = .ok ⟨settings, some named⟩ ∧
      named.action = some action ∧
      request = ⟨settings.wrenchBin.value, settings.cargo.value, settings.verbose, action⟩ := by
  constructor
  · intro h
    obtain ⟨⟨settings, named⟩, read, h⟩ := bind_eq_ok_iff.1 h
    split at h
    · rename_i action found
      obtain ⟨named, rfl, found⟩ := Option.bind_eq_some_iff.1 found
      cases h
      exact ⟨settings, named, action, read, found, rfl⟩
    · split at h <;> cases h
  · rintro ⟨settings, named, action, read, found, rfl⟩
    refine bind_eq_ok_iff.2 ⟨_, read, ?_⟩
    simp only [Option.bind_some, found]
    rfl

/-- Only `reftest` needs a word to ask for something. -/
theorem Named.enough_of_action {action : Action} (h : named.action = some action) :
    ¬(named.scope = .reftest ∧ named.given.words = []) := by
  rintro ⟨reftest, none⟩
  simp [Named.action, reftest, none] at h

/-- A request is read if the words spell a proper line that asks for it, and only then. -/
theorem Request.read_eq_ok_iff : Request.read environment words = .ok request ↔
    ∃ line : Line, line.Spelt words ∧ line.Proper environment ∧
      line.request? environment = some request := by
  rw [Request.read_eq_ok_iff_reading]
  constructor
  · rintro ⟨settings, named, action, reading, found, rfl⟩
    obtain ⟨after, rest, outer, inner, read, readInner, ⟨given, settled, set⟩, rfl⟩ :=
      Reading.of_eq_ok_iff.1 reading
    obtain ⟨items, name, rfl, fits, isName, rfl, proper⟩ :=
      Progress.readTool_eq_ok_iff.1 ⟨after, read, settled⟩
    obtain ⟨readAction, set', -, -⟩ := readNamed_eq_ok_iff.1 readInner
    obtain ⟨scope, given⟩ := named
    obtain ⟨items', plain, spelt, rfl, proper'⟩ := Progress.readAction_eq_ok_iff.1 readAction
    obtain ⟨allowed, rfl⟩ := Settings.of_eq_ok_iff.1 set
    obtain ⟨allowed', rfl⟩ := Settings.of_eq_ok_iff.1 set'
    refine ⟨⟨items, scope, items', plain⟩, .intro fits isName spelt, ⟨proper, proper', ?_⟩, ?_⟩
    · exact fun fallback mem => ⟨allowed fallback mem, allowed' fallback mem⟩
    · simp [Line.request?, Line.innerGiven, Line.outerGiven, found, Settings.merge,
        Fallback.value_merge_chosen]
  · rintro ⟨line, ⟨fits, isName, spelt⟩, ⟨proper, proper', allowed⟩, asked⟩
    obtain ⟨action, found, rfl⟩ := Option.map_eq_some_iff.1 asked
    obtain ⟨after, read, settled⟩ :=
      Progress.readTool_eq_ok_iff.2 ⟨line.outer, _, rfl, fits, isName, rfl, proper⟩
    have readAction := Progress.readAction_eq_ok_iff.2 ⟨line.inner, line.words, spelt, rfl, proper'⟩
    have set := Settings.of_eq_ok_iff.2 ⟨fun fallback mem => (allowed fallback mem).1, rfl⟩
    have set' := Settings.of_eq_ok_iff.2 ⟨fun fallback mem => (allowed fallback mem).2, rfl⟩
    have readInner := readNamed_eq_ok_iff.2 ⟨readAction, set', rfl, Named.enough_of_action found⟩
    have reading := Reading.of_eq_ok_iff.2 ⟨after, _, _, _, read, readInner, ⟨_, settled, set⟩, rfl⟩
    refine ⟨_, _, action, reading, found, ?_⟩
    simp [Settings.merge, Fallback.value_merge_chosen]

end Offscreen.CommandLine
