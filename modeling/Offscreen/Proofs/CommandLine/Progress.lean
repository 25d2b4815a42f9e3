import Offscreen.Proofs.CommandLine.Given

/-!
# What a progress stands for

The reader holds back the value of an option and plain words, so a step of it says little by itself.
What a progress stands for is what it settles to: an item that is read changes that as taking the item
in does (`settle_of_absorb`), a plain word as saying it does (`Placed.settle`).
-/

namespace Offscreen.CommandLine
set_option autoImplicit false

/-- Two steps go well if the first does and then the second. -/
theorem bind_eq_ok_iff {ε α β : Type} {first : Except ε α} {next : α → Except ε β} {result : β} :
    (first >>= next) = .ok result ↔ ∃ value, first = .ok value ∧ next value = .ok result := by
  cases first with
  | error refusal =>
    constructor
    · intro h
      cases h
    · rintro ⟨value, h, -⟩
      cases h
  | ok value =>
    constructor
    · intro h
      exact ⟨value, rfl, h⟩
    · rintro ⟨other, h, done⟩
      cases h
      exact done

namespace Progress
variable {scope : Scope} {before after : Progress} {given result : Given} {key : Key} {value : Bytes}
  {flag : Flag} {item : Item} {word : Bytes}

/-! ## Where a progress stands -/

/-- No option waits for its value, and plain words are held back only if there are some. -/
structure Whole (progress : Progress) : Prop where
  valued : ∀ key, progress.held ≠ .option key none
  worded : progress.held ≠ .words []

/-- Between two items, where options are still told apart. -/
structure Ready (progress : Progress) : Prop extends Whole progress where
  unclosed : progress.literal = false

/-- What a progress settles to can have been given. -/
def Sound (scope : Scope) (progress : Progress) : Prop :=
  ∀ given, progress.settle = .ok given → given.Proper scope

theorem ready_start : start.Ready where
  valued := nofun
  worded := nofun
  unclosed := rfl

theorem settle_start : start.settle = .ok .nothing := rfl

theorem sound_start (scope : Scope) : start.Sound scope := by
  rintro given ⟨⟩
  exact Given.proper_nothing scope

theorem Sound.of_settle (settled : before.settle = .ok given) (proper : given.Proper scope) :
    before.Sound scope := by
  intro other settles
  cases settled.symm.trans settles
  exact proper

theorem Whole.awaiting (h : before.Whole) : before.awaiting = none := by
  unfold Progress.awaiting
  split
  · rename_i key held
    exact absurd held (h.valued key)
  · rfl

theorem settle_of_waiting (h : before.held = .option key none) :
    before.settle = .error .invalidValue := by
  rw [settle, h]

/-! ## Items -/

/-- Reads an item as a whole. -/
def absorb (progress : Progress) : Item → Except Refusal Progress
  | .joined key value => progress.take key value
  | .apart key value => do
    return { progress with given := ← progress.settle, held := .option key (some value) }
  | .named flag | .lettered flag _ => progress.raise flag

theorem take_eq_ok_iff : before.take key value = .ok after ↔
    ∃ given taken, before.settle = .ok given ∧ given.take key value = .ok taken ∧
      after = ⟨taken, .nothing, before.literal⟩ := by
  unfold Progress.take
  rw [bind_eq_ok_iff]
  constructor
  · rintro ⟨given, settled, h⟩
    obtain ⟨taken, took, h⟩ := bind_eq_ok_iff.1 h
    cases h
    exact ⟨given, taken, settled, took, rfl⟩
  · rintro ⟨given, taken, settled, took, rfl⟩
    exact ⟨given, settled, bind_eq_ok_iff.2 ⟨taken, took, rfl⟩⟩

theorem raise_eq_ok_iff : before.raise flag = .ok after ↔
    ∃ given raised, before.settle = .ok given ∧ given.raise flag = .ok raised ∧
      after = ⟨raised, .nothing, before.literal⟩ := by
  unfold Progress.raise
  rw [bind_eq_ok_iff]
  constructor
  · rintro ⟨given, settled, h⟩
    obtain ⟨raised, rose, h⟩ := bind_eq_ok_iff.1 h
    cases h
    exact ⟨given, raised, settled, rose, rfl⟩
  · rintro ⟨given, raised, settled, rose, rfl⟩
    exact ⟨given, settled, bind_eq_ok_iff.2 ⟨raised, rose, rfl⟩⟩

theorem await_eq_ok_iff : before.await key = .ok after ↔
    ∃ given, before.settle = .ok given ∧ after = ⟨given, .option key none, before.literal⟩ := by
  unfold await
  rw [bind_eq_ok_iff]
  constructor
  · rintro ⟨given, settled, ⟨⟩⟩
    exact ⟨given, settled, rfl⟩
  · rintro ⟨given, settled, rfl⟩
    exact ⟨given, settled, rfl⟩

theorem held_of_await (h : before.await key = .ok after) :
    after.held = .option key none ∧ after.literal = before.literal := by
  obtain ⟨given, -, rfl⟩ := await_eq_ok_iff.1 h
  exact ⟨rfl, rfl⟩

/-- What is settled after an item is what was settled before, with the item taken in. -/
theorem settle_of_absorb (h : before.absorb item = .ok after) :
    ∃ given, before.settle = .ok given ∧ after.settle = given.accept item := by
  cases item with
  | joined key value =>
    obtain ⟨given, taken, settled, took, rfl⟩ := take_eq_ok_iff.1 h
    exact ⟨given, settled, took.symm⟩
  | apart key value =>
    obtain ⟨given, settled, ⟨⟩⟩ := bind_eq_ok_iff.1 h
    exact ⟨given, settled, rfl⟩
  | named flag | lettered flag letter =>
    obtain ⟨given, raised, settled, rose, rfl⟩ := raise_eq_ok_iff.1 h
    exact ⟨given, settled, rose.symm⟩

theorem Ready.absorb (ready : before.Ready) (h : before.absorb item = .ok after) : after.Ready := by
  cases item with
  | joined key value =>
    obtain ⟨given, taken, -, -, rfl⟩ := take_eq_ok_iff.1 h
    exact { valued := nofun, worded := nofun, unclosed := ready.unclosed }
  | apart key value =>
    obtain ⟨given, -, ⟨⟩⟩ := bind_eq_ok_iff.1 h
    exact { valued := nofun, worded := nofun, unclosed := ready.unclosed }
  | named flag | lettered flag letter =>
    obtain ⟨given, raised, -, -, rfl⟩ := raise_eq_ok_iff.1 h
    exact { valued := nofun, worded := nofun, unclosed := ready.unclosed }

/-- An item that can be taken in can be read. -/
theorem absorb_of_accept (settled : before.settle = .ok given) (accepted : given.accept item = .ok result) :
    ∃ after, before.absorb item = .ok after ∧ after.settle = .ok result := by
  cases item with
  | joined key value => exact ⟨_, take_eq_ok_iff.2 ⟨given, result, settled, accepted, rfl⟩, rfl⟩
  | apart key value => exact ⟨_, bind_eq_ok_iff.2 ⟨given, settled, rfl⟩, accepted⟩
  | named flag | lettered flag letter =>
    exact ⟨_, raise_eq_ok_iff.2 ⟨given, result, settled, accepted, rfl⟩, rfl⟩

/-- An item keeps what was given proper, and adds itself to it. -/
theorem added_of_absorb (sound : before.Sound scope) (h : before.absorb item = .ok after)
    (settles : after.settle = .ok result) : ∃ given, before.settle = .ok given ∧
      result = given.extended [item] [] ∧ result.Proper scope := by
  obtain ⟨given, settled, accepts⟩ := settle_of_absorb h
  have accepted : given.accept item = .ok result := accepts ▸ settles
  exact ⟨given, settled, (Given.accept_eq_ok_iff (sound given settled)).1 accepted⟩

theorem Sound.absorb (sound : before.Sound scope) (h : before.absorb item = .ok after) :
    after.Sound scope := by
  intro result settles
  obtain ⟨-, -, -, proper⟩ := added_of_absorb sound h settles
  exact proper

/-! ## Plain words -/

theorem say_append (given : Given) (words later : List Bytes) :
    given.say (words ++ later) = given.say words >>= (·.say later) := by
  unfold Given.say
  rw [List.all_append]
  by_cases first : words.all Utf8.isText = true <;> by_cases second : later.all Utf8.isText = true <;>
    simp [first, second, bind, Except.bind]

/-- What becomes of a plain word that has a place: it is held back, alone or behind those that are
held back already. -/
inductive Placed (before : Progress) (word : Bytes) : Scope → Progress → Prop where
  | behind {words : List Bytes} (held : before.held = .words words) :
      Placed before word .run ⟨before.given, .words (words ++ [word]), true⟩
  | handed {given : Given} (settled : before.settle = .ok given)
      (fresh : ∀ words, before.held ≠ .words words) :
      Placed before word .run ⟨given, .words [word], true⟩
  | only {given : Given} (settled : before.settle = .ok given)
      (fresh : ∀ words, before.held ≠ .words words) (none : before.given.words = []) :
      Placed before word .reftest ⟨given, .words [word], before.literal⟩

theorem placed_of_place (h : before.place scope word = .ok after) : Placed before word scope after := by
  cases scope with
  | run =>
    cases held : before.held with
    | words words =>
      simp only [place, held] at h
      cases h
      exact .behind held
    | nothing | option =>
      simp only [place, held] at h
      obtain ⟨given, settled, ⟨⟩⟩ := bind_eq_ok_iff.1 h
      exact .handed settled (by simp [held])
  | reftest =>
    cases held : before.held with
    | words words =>
      simp only [place, held] at h
      cases h
    | nothing | option =>
      simp only [place, held] at h
      split at h
      · rename_i none
        obtain ⟨given, settled, ⟨⟩⟩ := bind_eq_ok_iff.1 h
        exact .only settled (by simp [held]) none
      · cases h
  | env => cases h
  | tool =>
    simp only [place] at h
    split at h <;> cases h

theorem Placed.place (h : Placed before word scope after) : before.place scope word = .ok after := by
  cases h with
  | behind held => simp only [Progress.place, held]
  | handed settled fresh =>
    cases held : before.held with
    | words words => exact absurd held (fresh words)
    | nothing | option =>
      simp only [Progress.place, held, settled]
      rfl
  | only settled fresh none =>
    cases held : before.held with
    | words words => exact absurd held (fresh words)
    | nothing | option =>
      simp only [Progress.place, held, settled, none, if_true]
      rfl

theorem words_of_settle (settled : before.settle = .ok given) (fresh : ∀ words, before.held ≠ .words words) :
    given.words = before.given.words := by
  unfold settle at settled
  split at settled
  · cases settled
    rfl
  · cases settled
  · obtain ⟨-, -, rfl⟩ := Given.take_eq_ok_iff.1 settled
    rfl
  · rename_i words held
    exact absurd held (fresh words)

/-- What is settled after a plain word is what was settled before, with the word said. -/
theorem Placed.settle (h : Placed before word scope after) :
    after.settle = before.settle >>= (·.say [word]) := by
  cases h with
  | behind held =>
    simp only [Progress.settle, held]
    exact say_append _ _ _
  | handed settled | only settled =>
    rw [settled]
    rfl

theorem Placed.said (h : Placed before word scope after) (settles : after.settle = .ok result) :
    ∃ given, before.settle = .ok given ∧ result = given.extended [] [word] := by
  obtain ⟨given, settled, said⟩ := bind_eq_ok_iff.1 (h.settle ▸ settles)
  exact ⟨given, settled, (Given.say_eq_ok_iff.1 said).2⟩

theorem Placed.literal (h : Placed before word scope after) :
    after.literal = (before.literal || scope.forwards) := by
  cases h with
  | behind | handed => simp [Scope.forwards]
  | only => simp [Scope.forwards]

theorem Placed.whole (h : Placed before word scope after) : after.Whole := by
  cases h with
  | behind => exact { valued := nofun, worded := by simp }
  | handed | only => exact { valued := nofun, worded := by simp }

/-- A plain word has a place only where the scope has one more. -/
theorem Placed.room (h : Placed before word scope after) (settled : before.settle = .ok given) :
    scope.Holds (given.words.length + 1) := by
  cases h with
  | behind | handed => trivial
  | only _ fresh none =>
    rw [words_of_settle settled fresh, none]
    exact Nat.le_refl 1

theorem placed_of_room (whole : before.Whole) (settled : before.settle = .ok given)
    (room : scope.Holds (given.words.length + 1)) (word : Bytes) :
    ∃ after, Placed before word scope after := by
  cases held : before.held with
  | words words =>
    rw [Progress.settle, held] at settled
    obtain ⟨-, rfl⟩ := Given.say_eq_ok_iff.1 settled
    cases scope with
    | run => exact ⟨_, .behind held⟩
    | reftest =>
      have some : 0 < words.length := List.length_pos_iff.2 fun none => whole.worded (none ▸ held)
      simp only [Scope.Holds, Given.extended, List.length_append] at room
      omega
    | env | tool => cases room
  | nothing | option =>
    have fresh : ∀ words, before.held ≠ .words words := by simp [held]
    cases scope with
    | run => exact ⟨_, .handed settled fresh⟩
    | reftest =>
      have same := words_of_settle settled fresh
      have none : before.given.words.length = 0 := by
        rw [← same]
        exact Nat.le_zero.1 (Nat.le_of_succ_le_succ room)
      exact ⟨_, .only settled fresh (List.length_eq_zero_iff.1 none)⟩
    | env | tool => cases room

/-- A plain word that can be said can be read. -/
theorem placed_of_proper (whole : before.Whole) (settled : before.settle = .ok given)
    (proper : (given.extended [] [word]).Proper scope) :
    ∃ after, Placed before word scope after ∧ after.settle = .ok (given.extended [] [word]) := by
  have room : scope.Holds (given.words.length + 1) := by simpa [Given.extended] using proper.room
  have text : ∀ w ∈ [word], Utf8.isText w = true := fun w mem =>
    proper.text w (List.mem_append_right _ mem)
  obtain ⟨after, placed⟩ := placed_of_room whole settled room word
  refine ⟨after, placed, ?_⟩
  rw [placed.settle, settled]
  exact Given.say_eq_ok_iff.2 ⟨text, rfl⟩

/-- A plain word keeps what was given proper, if it has a place and is text. -/
theorem Sound.placed (sound : before.Sound scope) (h : Placed before word scope after) :
    after.Sound scope := by
  intro result settles
  obtain ⟨given, settled, said⟩ := bind_eq_ok_iff.1 (h.settle ▸ settles)
  obtain ⟨text, rfl⟩ := Given.say_eq_ok_iff.1 said
  exact (sound given settled).extended_words text (h.room settled)

end Progress
end Offscreen.CommandLine
