import Offscreen.Proofs.Overrides
import Mathlib.Data.List.Dedup

/-!
# Overrides through the settings that make them

A setting is a variable with its value. Overrides that are made by settings one after the other hold
the last value of each variable (`get?_ofSettings`), and nothing else can be seen of the settings: the
order of settings of different variables and an earlier value of a variable leave no trace
(`settings_canonical`).
-/

namespace Offscreen.Overrides
set_option autoImplicit false

/-- Sets variables one after the other. -/
def setAll (overrides : Overrides) (settings : List (Bytes × Bytes)) : Overrides :=
  settings.foldl (fun overrides setting => overrides.set setting.1 setting.2) overrides

/-- The overrides that settings make. -/
def ofSettings (settings : List (Bytes × Bytes)) : Overrides :=
  empty.setAll settings

/-- The value that the last setting of a variable gives it. -/
def lastValue? (settings : List (Bytes × Bytes)) (name : Bytes) : Option Bytes :=
  settings.reverse.lookup name

theorem values_setAll (overrides : Overrides) (settings : List (Bytes × Bytes)) :
    (overrides.setAll settings).values = overrides.values.insertAll settings := by
  induction settings generalizing overrides with
  | nil => rfl
  | cons setting rest ih => exact ih (overrides.set setting.1 setting.2)

theorem get?_setAll (overrides : Overrides) (settings : List (Bytes × Bytes)) (name : Bytes) :
    (overrides.setAll settings).get? name = (lastValue? settings name).or (overrides.get? name) := by
  rw [get?, values_setAll, ByteMap.get?_insertAll]
  rfl

theorem get?_ofSettings (settings : List (Bytes × Bytes)) (name : Bytes) :
    (ofSettings settings).get? name = lastValue? settings name := by
  have nothing : empty.get? name = none := rfl
  rw [ofSettings, get?_setAll, nothing, Option.or_none]

theorem lastValue?_entries (overrides : Overrides) (name : Bytes) :
    lastValue? overrides.values.entries name = overrides.get? name :=
  overrides.values.lookup_reverse_entries name

/-! ## What is left of settings -/

section

variable {settings : List (Bytes × Bytes)} {name : Bytes}

theorem lastValue?_append (first later : List (Bytes × Bytes)) (name : Bytes) :
    lastValue? (first ++ later) name = (lastValue? later name).or (lastValue? first name) := by
  rw [lastValue?, List.reverse_append, List.lookup_append]
  rfl

theorem lastValue?_cons (setting : Bytes × Bytes) (later : List (Bytes × Bytes)) (name : Bytes) :
    lastValue? (setting :: later) name =
      (lastValue? later name).or (if setting.1 = name then some setting.2 else none) := by
  rw [← List.singleton_append, lastValue?_append, ← ByteMap.lookup_singleton]
  rfl

theorem exists_lastValue?_iff : (∃ value, lastValue? settings name = some value) ↔ name ∈ settings.map Prod.fst := by
  rw [← Option.isSome_iff_exists, lastValue?, List.lookup_isSome_iff]
  simp

theorem mem_names_ofSettings : name ∈ (ofSettings settings).names ↔ name ∈ settings.map Prod.fst := by
  rw [← exists_lastValue?_iff, ← get?_ofSettings]
  exact ByteMap.mem_keys_iff

/-- The variables are those that are set, each once. -/
theorem size_ofSettings (settings : List (Bytes × Bytes)) :
    (ofSettings settings).size = (settings.map Prod.fst).dedup.length := by
  have perm : (ofSettings settings).names.Perm (settings.map Prod.fst).dedup := by
    refine (List.perm_ext_iff_of_nodup (ofSettings settings).values.nodup_keys (List.nodup_dedup _)).2 ?_
    intro name
    rw [List.mem_dedup]
    exact mem_names_ofSettings
  calc (ofSettings settings).size
      = (ofSettings settings).names.length := (List.length_map _).symm
    _ = (settings.map Prod.fst).dedup.length := perm.length_eq

theorem isEmpty_ofSettings : (ofSettings settings).isEmpty = true ↔ settings = [] := by
  have none_left : (ofSettings settings).isEmpty = true ↔ (ofSettings settings).size = 0 :=
    List.isEmpty_iff_length_eq_zero
  rw [none_left, size_ofSettings, List.length_eq_zero_iff, List.dedup_eq_nil, List.map_eq_nil_iff]

/-- Every name of overrides begins its line, in order. -/
theorem toList_text (overrides : Overrides) :
    overrides.text.toList = overrides.names.flatMap fun name =>
      Utf8.lossy name ++ '=' :: Utf8.lossy ((overrides.get? name).getD []) ++ ['\n'] := by
  rw [text, String.toList_ofList, lines, names, ByteMap.keys, List.flatMap_map]
  apply List.flatMap_congr
  rintro ⟨name, value⟩ mem
  have held : overrides.get? name = some value := ByteMap.get?_eq_some_iff.2 mem
  simp only [line, held, Option.getD_some, List.append_assoc, List.singleton_append]

end

/-! ## Settings that make the same overrides -/

theorem ofSettings_eq_iff {settings others : List (Bytes × Bytes)} :
    ofSettings settings = ofSettings others ↔ ∀ name, lastValue? settings name = lastValue? others name := by
  constructor
  · intro same name
    rw [← get?_ofSettings, ← get?_ofSettings, same]
  · intro held
    apply ext
    intro name
    rw [get?_ofSettings, get?_ofSettings, held]

/-- Settings of different variables commute. -/
theorem ofSettings_swap {a b : Bytes × Bytes} (apart : a.1 ≠ b.1) (front later : List (Bytes × Bytes)) :
    ofSettings (front ++ a :: b :: later) = ofSettings (front ++ b :: a :: later) := by
  apply ofSettings_eq_iff.2
  intro name
  simp only [lastValue?_append, lastValue?_cons, Option.or_assoc]
  by_cases here : a.1 = name
  · have other : b.1 ≠ name := fun same => apart (here.trans same.symm)
    simp only [if_pos here, if_neg other, Option.none_or]
  · simp only [if_neg here, Option.none_or]

/-- A setting leaves no trace if its variable is set again later. -/
theorem ofSettings_again {name : Bytes} (front : List (Bytes × Bytes)) (old : Bytes) {later : List (Bytes × Bytes)}
    (again : name ∈ later.map Prod.fst) :
    ofSettings (front ++ (name, old) :: later) = ofSettings (front ++ later) := by
  apply ofSettings_eq_iff.2
  intro other
  simp only [lastValue?_append, lastValue?_cons]
  by_cases here : name = other
  · obtain ⟨value, last⟩ := exists_lastValue?_iff.2 again
    rw [← here, last, Option.some_or]
  · rw [if_neg here, Option.or_none]

/-- What can be seen of overrides that settings have made. -/
structure Canonical (settings : List (Bytes × Bytes)) : Prop where
  /-- The last value of a variable is its value. -/
  get : ∀ name, (ofSettings settings).get? name = lastValue? settings name
  names : ∀ name, name ∈ (ofSettings settings).names ↔ name ∈ settings.map Prod.fst
  increasing : (ofSettings settings).names.Pairwise (· < ·)
  /-- Each variable counts once, however often it is set. -/
  size : (ofSettings settings).size = (settings.map Prod.fst).dedup.length
  isEmpty : (ofSettings settings).isEmpty = true ↔ settings = []
  /-- The text has a line for each name, in the same order. The line begins with the name, and the value follows
  behind an equals sign. -/
  text : (ofSettings settings).text.toList = (ofSettings settings).names.flatMap fun name =>
    Utf8.lossy name ++ '=' :: Utf8.lossy ((lastValue? settings name).getD []) ++ ['\n']

theorem canonical (settings : List (Bytes × Bytes)) : Canonical settings where
  get := get?_ofSettings settings
  names := fun _ => mem_names_ofSettings
  increasing := (ofSettings settings).values.keys_increasing
  size := size_ofSettings settings
  isEmpty := isEmpty_ofSettings
  text := by simp only [toList_text, get?_ofSettings]

/-- **Settings are seen through their last values.** Overrides hold the last value of each variable that was
set, in the order of the names. They are the same for two lists of settings exactly if each variable has the
same value: so settings of different variables commute, and one that is made again leaves no trace. -/
theorem settings_canonical :
    (∀ settings, Canonical settings) ∧
    (∀ settings others, ofSettings settings = ofSettings others ↔
      ∀ name, (ofSettings settings).get? name = (ofSettings others).get? name) ∧
    (∀ front later a b, a.1 ≠ b.1 →
      ofSettings (front ++ a :: b :: later) = ofSettings (front ++ b :: a :: later)) ∧
    ∀ front later name old, name ∈ later.map Prod.fst →
      ofSettings (front ++ (name, old) :: later) = ofSettings (front ++ later) := by
  refine ⟨canonical, ?_, ?_, ?_⟩
  · intro settings others
    simp only [get?_ofSettings]
    exact ofSettings_eq_iff
  · intro front later a b apart
    exact ofSettings_swap apart front later
  · intro front later name old again
    exact ofSettings_again front old again

end Offscreen.Overrides
