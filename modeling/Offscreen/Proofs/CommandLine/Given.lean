import Offscreen.CommandLine.Reader
import Offscreen.Proofs.CommandLine.Spelling
import Offscreen.Proofs.Platform

/-!
# What a scope can be given

`Given.Proper` says what a scope can have been given once all of it was judged: values that their
options accept, nothing twice that may be given once, text, and no more plain words than there are
places for. Taking an item in is the same as adding it, where that leaves something proper
(`Given.accept_eq_ok_iff`).
-/

namespace Offscreen.CommandLine
set_option autoImplicit false

/-! ## Values -/

/-- The values that an option can have. -/
def Key.Accepts : Key → Bytes → Prop
  | .wrenchBin, value | .screenshot, value => value ≠ []
  | .cargo, value | .features, value => Utf8.isText value = true
  | .platform, value => ∃ platform, Platform.Called value platform

theorem Key.check_eq_ok_iff {key : Key} {value : Bytes} :
    key.check value = .ok () ↔ key.Accepts value := by
  cases key with
  | wrenchBin | screenshot =>
    by_cases empty : value = [] <;> simp [Key.check, Key.Accepts, empty]
  | cargo | features =>
    by_cases text : Utf8.isText value = true <;> simp [Key.check, Key.Accepts, text]
  | platform =>
    have called : Key.platform.Accepts value ↔ ∃ platform, Platform.ofName? value = some platform :=
      exists_congr fun _ => Platform.ofName?_eq_some_iff.symm
    cases known : Platform.ofName? value with
    | none => by_cases text : Utf8.isText value = true <;> simp [Key.check, called, known, text]
    | some platform =>
      have text := (Platform.ofName?_eq_some_iff.1 known).isText
      simp [Key.check, called, known, text]

/-! ## Plain words -/

/-- Whether a scope has places for a number of plain words: `run` for any number, `reftest` for one. -/
def Scope.Holds : Scope → Nat → Prop
  | .run, _ => True
  | .reftest, count => count ≤ 1
  | .env, count | .tool, count => count = 0

theorem Scope.Holds.le {scope : Scope} {count more : Nat} (h : scope.Holds more) (le : count ≤ more) :
    scope.Holds count := by
  cases scope with
  | run => trivial
  | reftest => exact Nat.le_trans le h
  | env | tool => exact Nat.le_zero.1 (h ▸ le)

/-! ## What was given -/

namespace Given
variable {given after : Given} {scope : Scope} {key : Key} {value : Bytes} {flag : Flag} {item : Item}
  {items : List Item} {words : List Bytes}

/-- What was given, and then some items and some plain words. -/
def extended (given : Given) (items : List Item) (words : List Bytes) : Given :=
  ⟨given.values ++ items.filterMap Item.entry?, given.flags ++ items.filterMap Item.flag?,
    given.words ++ words⟩

/-- Some items and some plain words, and nothing else. -/
def of (items : List Item) (words : List Bytes) : Given := nothing.extended items words

/-- What a scope can have been given. -/
structure Proper (scope : Scope) (given : Given) : Prop where
  accepted : ∀ entry ∈ given.values, entry.1.Accepts entry.2
  once : ∀ key, key.repeats = false → (given.valuesOf key).length ≤ 1
  raised : given.flags.Nodup
  kept : ∀ flag ∈ given.flags, flag ≠ .help ∧ flag ≠ .version
  text : ∀ word ∈ given.words, Utf8.isText word = true
  room : scope.Holds given.words.length

theorem extended_nil : given.extended [] [] = given := by
  simp [extended]

theorem extended_extended (more : List Item) (later : List Bytes) :
    (given.extended items words).extended more later = given.extended (items ++ more) (words ++ later) := by
  simp [extended, List.filterMap_append]

theorem extended_item :
    (given.extended [item] []).extended items words = given.extended (item :: items) words :=
  extended_extended items words

theorem extended_word (word : Bytes) :
    (given.extended [] [word]).extended items words = given.extended items (word :: words) :=
  extended_extended items words

theorem valuesOf_extended :
    (given.extended items words).valuesOf key = given.valuesOf key ++ valuesIn key items := by
  simp [extended, valuesOf, valuesIn]

theorem valuesOf_of : (of items words).valuesOf key = valuesIn key items := rfl

theorem flags_of : (of items words).flags = flagsIn items := rfl

theorem Proper.accepts (h : given.Proper scope) (mem : value ∈ given.valuesOf key) : key.Accepts value := by
  obtain ⟨⟨other, _⟩, chosen, rfl⟩ := List.mem_map.1 mem
  obtain ⟨held, same⟩ := List.mem_filter.1 chosen
  obtain rfl : other = key := of_decide_eq_true same
  exact h.accepted _ held

theorem proper_nothing (scope : Scope) : nothing.Proper scope where
  accepted := nofun
  once _ _ := Nat.zero_le 1
  raised := List.nodup_nil
  kept := nofun
  text := nofun
  room := by cases scope <;> simp [Scope.Holds, nothing]

/-- What comes later cannot make up for what came before. -/
theorem Proper.of_extended (h : (given.extended items words).Proper scope) : given.Proper scope where
  accepted entry mem := h.accepted entry (List.mem_append_left _ mem)
  once key single := by
    have all := h.once key single
    rw [valuesOf_extended, List.length_append] at all
    omega
  raised := (List.nodup_append.1 h.raised).1
  kept flag mem := h.kept flag (List.mem_append_left _ mem)
  text word mem := h.text word (List.mem_append_left _ mem)
  room := h.room.le (by simp [extended])

theorem Proper.extended_words (proper : given.Proper scope)
    (text : ∀ word ∈ words, Utf8.isText word = true)
    (room : scope.Holds (given.words.length + words.length)) :
    (given.extended [] words).Proper scope where
  accepted := by simpa [extended] using proper.accepted
  once := by simpa [extended, valuesOf] using proper.once
  raised := by simpa [extended] using proper.raised
  kept := by simpa [extended] using proper.kept
  text word mem := by
    rcases List.mem_append.1 mem with old | new
    · exact proper.text word old
    · exact text word new
  room := by simpa [extended] using room

/-- An option is refused where it was given before and may be given once. -/
theorem take_of_given (h : ¬(key.repeats = true ∨ given.valuesOf key = [])) :
    given.take key value = .error .argumentConflict := by
  have again : (!key.repeats && !(given.valuesOf key).isEmpty) = true := by
    simpa [not_or] using h
  unfold take
  rw [if_pos again]
  rfl

theorem take_of_free (h : key.repeats = true ∨ given.valuesOf key = []) :
    given.take key value =
      (key.check value).map fun _ => { given with values := given.values ++ [(key, value)] } := by
  have free : ¬(!key.repeats && !(given.valuesOf key).isEmpty) = true := by
    rcases h with repeats | none
    · simp [repeats]
    · simp [none]
  unfold take
  rw [if_neg free]
  cases key.check value <;> rfl

theorem take_eq_ok_iff :
    given.take key value = .ok after ↔
      (key.repeats = true ∨ given.valuesOf key = []) ∧ key.Accepts value ∧
        after = { given with values := given.values ++ [(key, value)] } := by
  by_cases free : key.repeats = true ∨ given.valuesOf key = []
  · rw [take_of_free free, ← Key.check_eq_ok_iff]
    cases key.check value with
    | error refusal => simp [Except.map]
    | ok =>
      simp only [Except.map, Except.ok.injEq, free, true_and]
      exact eq_comm
  · rw [take_of_given free]
    simp [free]

theorem raise_eq_ok_iff :
    given.raise flag = .ok after ↔
      flag ≠ .help ∧ flag ≠ .version ∧ flag ∉ given.flags ∧
        after = { given with flags := given.flags ++ [flag] } := by
  have symm : ∀ other, other = after ↔ after = other := fun _ => eq_comm
  by_cases mem : flag ∈ given.flags <;> cases flag <;> simp [raise, raised, symm, mem]

theorem say_eq_ok_iff :
    given.say words = .ok after ↔
      (∀ word ∈ words, Utf8.isText word = true) ∧ after = given.extended [] words := by
  rw [← List.all_eq_true]
  unfold say
  split
  · rename_i text
    simp only [text, true_and, Except.ok.injEq, extended, List.filterMap_nil, List.append_nil]
    exact eq_comm
  · rename_i untold
    simp [untold]

/-- Takes in an item. -/
def accept (given : Given) : Item → Except Refusal Given
  | .joined key value | .apart key value => given.take key value
  | .named flag | .lettered flag _ => given.raise flag

theorem proper_take_iff (proper : given.Proper scope) :
    ({ given with values := given.values ++ [(key, value)] } : Given).Proper scope ↔
      (key.repeats = true ∨ given.valuesOf key = []) ∧ key.Accepts value := by
  constructor
  · intro h
    refine ⟨?_, h.accepted _ (List.mem_append_right _ (List.mem_singleton_self _))⟩
    by_cases repeats : key.repeats = true
    · exact .inl repeats
    · have all := h.once key (by simpa using repeats)
      simp [valuesOf] at all
      exact .inr (by simpa [valuesOf] using all)
  · rintro ⟨free, accepts⟩
    refine ⟨?_, ?_, proper.raised, proper.kept, proper.text, proper.room⟩
    · intro entry mem
      rcases List.mem_append.1 mem with old | new
      · exact proper.accepted entry old
      · rw [List.mem_singleton.1 new]
        exact accepts
    · intro other single
      have before := proper.once other single
      by_cases same : key = other
      · subst same
        have none : given.valuesOf key = [] := free.resolve_left (by simp [single])
        have empty : given.values.filter (fun entry => entry.1 = key) = [] := by
          simpa [valuesOf] using none
        simp [valuesOf, empty]
      · simpa [valuesOf, same] using before

theorem proper_raise_iff (proper : given.Proper scope) :
    ({ given with flags := given.flags ++ [flag] } : Given).Proper scope ↔
      flag ≠ .help ∧ flag ≠ .version ∧ flag ∉ given.flags := by
  constructor
  · intro h
    obtain ⟨help, version⟩ := h.kept flag (List.mem_append_right _ (List.mem_singleton_self _))
    refine ⟨help, version, fun old => ?_⟩
    exact (List.nodup_append.1 h.raised).2.2 flag old flag (List.mem_singleton_self _) rfl
  · rintro ⟨help, version, new⟩
    refine ⟨proper.accepted, proper.once, ?_, ?_, proper.text, proper.room⟩
    · refine List.nodup_append.2 ⟨proper.raised, by simp, ?_⟩
      intro old mem other same eq
      rw [eq, List.mem_singleton.1 same] at mem
      exact new mem
    · intro other mem
      rcases List.mem_append.1 mem with old | same
      · exact proper.kept other old
      · rw [List.mem_singleton.1 same]
        exact ⟨help, version⟩

/-- An item is taken in if it is added, and if what has been given then is proper. -/
theorem accept_eq_ok_iff (proper : given.Proper scope) :
    given.accept item = .ok after ↔ after = given.extended [item] [] ∧ after.Proper scope := by
  cases item with
  | joined key value | apart key value =>
    rw [accept, take_eq_ok_iff, ← and_assoc, ← proper_take_iff proper, and_comm]
    simp only [extended, Item.entry?, Item.flag?, List.filterMap_cons, List.filterMap_nil,
      List.append_nil]
    exact and_congr_right fun same => by rw [same]
  | named flag | lettered flag letter =>
    rw [accept, raise_eq_ok_iff, ← and_assoc, ← and_assoc, and_assoc (c := flag ∉ _),
      ← proper_raise_iff proper, and_comm]
    simp only [extended, Item.entry?, Item.flag?, List.filterMap_cons, List.filterMap_nil,
      List.append_nil]
    exact and_congr_right fun same => by rw [same]

end Given
end Offscreen.CommandLine
