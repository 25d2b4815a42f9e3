import Offscreen.Proofs.CommandLine.Progress

/-!
# How a word is read

A word that is read where options are still told apart is an item, the first word of an option whose
value follows, two hyphens, or a plain word (`step_course`). Each of them is read as what it is
(`step_joined` and its siblings).
-/

namespace Offscreen.CommandLine
set_option autoImplicit false

namespace Progress
variable {scope : Scope} {before after : Progress} {key : Key} {flag : Flag} {letter : UInt8}
  {word : Bytes}

/-- What reading a word comes to where options are still told apart. -/
inductive StepCourse (scope : Scope) (before : Progress) (word : Bytes) (after : Progress) : Prop where
  | item (item : Item) (fits : item.Fits scope) (words : item.words = [word])
      (read : before.absorb item = .ok after)
  | option (key : Key) (known : key ∈ scope.keys) (eq : word = twoHyphens ++ key.name)
      (read : before.await key = .ok after)
  | literal (eq : word = twoHyphens) (read : after = { before with literal := true })
  | plain (free : scope.Free word) (read : before.pass scope word = .ok after)

/-- Of some letters only one can be taken in: those that are known ask for help, or are the same. -/
theorem raiseAll_eq_ok {letters : Bytes} (h : before.raiseAll scope (letter :: letters) = .ok after) :
    ∃ flag, flag ∈ scope.flags ∧ flag.letter? = some letter ∧ letters = [] ∧
      before.raise flag = .ok after := by
  unfold raiseAll at h
  split at h
  · cases h
  · rename_i flag known
    obtain ⟨mem, has⟩ := Scope.eq_of_letter? known
    obtain ⟨middle, rose, h⟩ := bind_eq_ok_iff.1 h
    cases letters with
    | nil =>
      cases h
      exact ⟨flag, mem, has, rfl, rose⟩
    | cons second letters =>
      unfold raiseAll at h
      split at h
      · cases h
      · rename_i other known'
        obtain ⟨last, again, -⟩ := bind_eq_ok_iff.1 h
        obtain ⟨given, raised, -, once, rfl⟩ := raise_eq_ok_iff.1 rose
        obtain ⟨given', raised', settled, twice, -⟩ := raise_eq_ok_iff.1 again
        cases settled
        obtain ⟨help, version, -, rfl⟩ := Given.raise_eq_ok_iff.1 once
        obtain ⟨help', version', new, -⟩ := Given.raise_eq_ok_iff.1 twice
        obtain ⟨-, has'⟩ := Scope.eq_of_letter? known'
        have same : flag = other := by
          cases flag <;> cases other <;> first | rfl | contradiction
        subst same
        exact absurd (List.mem_append_right _ (List.mem_singleton_self flag)) new

theorem step_course (unclosed : before.literal = false) (h : before.step scope word = .ok after) :
    StepCourse scope before word after := by
  unfold step at h
  rw [unclosed, if_neg Bool.false_ne_true] at h
  split at h
  · rename_i look
    exact .plain (Scope.free_of_plain look) h
  · rename_i look
    cases h
    exact .literal (Shape.eq_of_dashes look) rfl
  · rename_i name value look
    have spelt := Shape.eq_of_long look
    split at h
    · rename_i key value known
      obtain ⟨mem, rfl⟩ := Scope.eq_of_key? known
      exact .item (.joined key value) mem (by simp [Item.words, spelt]) h
    · rename_i key known
      obtain ⟨mem, rfl⟩ := Scope.eq_of_key? known
      exact .option key mem (by simpa using spelt) h
    · cases h
    · rename_i flag unknown known
      obtain ⟨mem, rfl⟩ := Scope.eq_of_flag? known
      exact .item (.named flag) mem (by simp [Item.words, spelt]) h
    · rename_i noKey noFlag
      split at h
      · rename_i handsOn
        obtain ⟨forwards, text⟩ := Bool.and_eq_true_iff.1 handsOn
        refine .plain ?_ h
        rw [Scope.Free, look]
        exact ⟨forwards, noKey, noFlag, text⟩
      · cases h
  · rename_i letters look
    obtain ⟨spelt, some⟩ := Shape.eq_of_short look
    split at h
    · rename_i handsOn
      obtain ⟨forwards, unknown⟩ := Bool.and_eq_true_iff.1 handsOn
      refine .plain ?_ h
      rw [Scope.Free, look]
      obtain ⟨letter, mem, none⟩ := List.any_eq_true.1 unknown
      exact ⟨forwards, letter, mem, Option.isNone_iff_eq_none.1 none⟩
    · obtain ⟨letter, rest, rfl⟩ := List.exists_cons_of_ne_nil some
      obtain ⟨flag, mem, has, rfl, rose⟩ := raiseAll_eq_ok h
      exact .item (.lettered flag letter) ⟨mem, has⟩ (by rw [spelt]; rfl) rose

theorem step_joined (unclosed : before.literal = false) (known : key ∈ scope.keys) (value : Bytes) :
    before.step scope (twoHyphens ++ key.name ++ equals :: value) = before.take key value := by
  simp only [step, unclosed, Shape.of_long_value key.equals_not_mem_name, Scope.key?_name known]
  rfl

theorem step_apart (unclosed : before.literal = false) (known : key ∈ scope.keys) :
    before.step scope (twoHyphens ++ key.name) = before.await key := by
  simp only [step, unclosed, Shape.of_long key.name_ne_nil key.equals_not_mem_name, Scope.key?_name known]
  rfl

theorem step_named (unclosed : before.literal = false) (known : flag ∈ scope.flags) :
    before.step scope (twoHyphens ++ flag.name) = before.raise flag := by
  simp only [step, unclosed, Shape.of_long flag.name_ne_nil flag.equals_not_mem_name,
    Scope.key?_flag_name, Scope.flag?_name known]
  rfl

theorem step_lettered (unclosed : before.literal = false) (known : flag ∈ scope.flags)
    (has : flag.letter? = some letter) : before.step scope [hyphen, letter] = before.raise flag := by
  have look := Shape.of_short (Flag.letter_ne_hyphen has) []
  have found := Scope.letter?_letter known has
  simp only [step, unclosed, look, raiseAll, found, List.any_cons, List.any_nil, Option.isNone_some,
    Bool.or_false, Bool.and_false, Bool.false_eq_true, if_false]
  cases before.raise flag <;> rfl

theorem step_twoHyphens (unclosed : before.literal = false) :
    before.step scope twoHyphens = .ok { before with literal := true } := by
  simp only [step, unclosed, Shape.of_twoHyphens]
  rfl

theorem step_free (unclosed : before.literal = false) (free : scope.Free word) :
    before.step scope word = before.pass scope word := by
  unfold Scope.Free at free
  rw [step, unclosed, if_neg Bool.false_ne_true]
  cases look : Shape.of word with
  | plain => rfl
  | dashes =>
    rw [look] at free
    cases free
  | long name value =>
    rw [look] at free
    obtain ⟨forwards, noKey, noFlag, text⟩ := free
    simp only [noKey, noFlag, forwards, text, Bool.and_self, if_true]
  | short letters =>
    rw [look] at free
    obtain ⟨forwards, letter, mem, none⟩ := free
    have unknown : letters.any (fun letter => (scope.letter? letter).isNone) = true :=
      List.any_eq_true.2 ⟨letter, mem, by rw [none]; rfl⟩
    simp only [forwards, unknown, Bool.and_self, if_true]

/-- A word that is read while an option waits for its value is that value, or closes the options. -/
theorem step_waiting (held : before.held = .option key none) (unclosed : before.literal = false)
    (h : before.step scope word = .ok after) :
    word = twoHyphens ∧ after = { before with literal := true } ∨
      scope.Free word ∧ after = { before with held := .option key (some word) } := by
  have unsettled := settle_of_waiting held
  cases step_course unclosed h with
  | item item fits words read =>
    obtain ⟨given, settled, -⟩ := settle_of_absorb read
    cases unsettled.symm.trans settled
  | option other known eq read =>
    obtain ⟨given, settled, -⟩ := await_eq_ok_iff.1 read
    cases unsettled.symm.trans settled
  | literal eq read => exact .inl ⟨eq, read⟩
  | plain free read =>
    have waiting : before.awaiting = some key := by simp [awaiting, held, unclosed]
    rw [pass, waiting] at read
    cases read
    exact .inr ⟨free, rfl⟩

/-- The word after an option is its value, and both are an item; or it closes the options while the option
still waits. -/
theorem absorb_of_await {value : Bytes} {waiting : Progress} (unclosed : before.literal = false)
    (known : key ∈ scope.keys) (awaited : before.await key = .ok waiting)
    (h : waiting.step scope value = .ok after) :
    after.held = .option key none ∧ after.literal = true ∨
      (Item.apart key value).Fits scope ∧ before.absorb (.apart key value) = .ok after := by
  obtain ⟨given, settled, rfl⟩ := await_eq_ok_iff.1 awaited
  have held : (⟨given, .option key none, before.literal⟩ : Progress).held = .option key none := rfl
  rcases step_waiting held unclosed h with ⟨-, rfl⟩ | ⟨free, rfl⟩
  · exact .inl ⟨rfl, rfl⟩
  · exact .inr ⟨⟨known, free⟩, bind_eq_ok_iff.2 ⟨given, settled, rfl⟩⟩

/-- An item is read in one step, or in two with its option waiting in between. -/
inductive ItemSteps (scope : Scope) (before : Progress) (item : Item) (after : Progress) : Prop where
  | one (word : Bytes) (words : item.words = [word]) (begins : word.head? = some hyphen)
      (step : before.step scope word = .ok after)
  | two (word value : Bytes) (key : Key) (waiting : Progress) (words : item.words = [word, value])
      (begins : word.head? = some hyphen) (first : before.step scope word = .ok waiting)
      (held : waiting.held = .option key none) (unclosed : waiting.literal = false)
      (second : waiting.step scope value = .ok after)

theorem steps_of_absorb {item : Item} (unclosed : before.literal = false) (fits : item.Fits scope)
    (h : before.absorb item = .ok after) : ItemSteps scope before item after := by
  cases item with
  | joined key value => exact .one _ rfl rfl ((step_joined unclosed fits value).trans h)
  | apart key value =>
    obtain ⟨given, settled, ⟨⟩⟩ := bind_eq_ok_iff.1 h
    let waiting : Progress := ⟨given, .option key none, before.literal⟩
    have unclosed' : waiting.literal = false := unclosed
    have first : before.step scope (twoHyphens ++ key.name) = .ok waiting :=
      (step_apart unclosed fits.1).trans (await_eq_ok_iff.2 ⟨given, settled, rfl⟩)
    have second : waiting.step scope value = .ok { waiting with held := .option key (some value) } := by
      have waits : waiting.awaiting = some key := by simp [awaiting, waiting, unclosed]
      rw [step_free unclosed' fits.2, pass, waits]
    exact .two _ value key waiting rfl rfl first rfl unclosed' second
  | named flag => exact .one _ rfl rfl ((step_named unclosed fits).trans h)
  | lettered flag letter => exact .one _ rfl rfl ((step_lettered unclosed fits.1 fits.2).trans h)

end Progress
end Offscreen.CommandLine
