import Offscreen.Proofs.CommandLine.Step

/-!
# The reader reads what is spelt

Reading the words of an action goes well exactly if they spell something proper
(`readAction_eq_ok_iff`), and so does reading the tool's own words up to the name of an action
(`readTool_eq_ok_iff`).
-/

namespace Offscreen.CommandLine
set_option autoImplicit false

namespace Progress
variable {scope : Scope} {before after : Progress} {given result : Given} {key : Key} {item : Item}
  {items : List Item} {word : Bytes} {words plain rest : List Bytes}

/-! ## The words of an action -/

theorem readAction_cons : before.readAction scope (word :: rest) = .ok result ↔
    ∃ after, before.step scope word = .ok after ∧ after.readAction scope rest = .ok result :=
  bind_eq_ok_iff

theorem step_of_literal (literal : before.literal = true) :
    before.step scope word = before.place scope word := by
  rw [step, if_pos literal]

theorem not_place_of_waiting (held : before.held = .option key none) :
    before.place scope word ≠ .ok after := by
  intro h
  have unsettled := settle_of_waiting held
  cases placed_of_place h with
  | behind worded => cases held.symm.trans worded
  | handed settled | only settled => cases unsettled.symm.trans settled

/-- Two hyphens come too early for an option that waits for its value. -/
theorem not_readAction_of_waiting (held : before.held = .option key none) (literal : before.literal = true) :
    before.readAction scope words ≠ .ok result := by
  intro h
  cases words with
  | nil => cases (settle_of_waiting held).symm.trans h
  | cons word rest =>
    obtain ⟨after, stepped, -⟩ := readAction_cons.1 h
    rw [step_of_literal literal] at stepped
    exact not_place_of_waiting held stepped

/-- Behind two hyphens every word is plain. -/
theorem readAction_literal (literal : before.literal = true) (whole : before.Whole)
    (sound : before.Sound scope) : before.readAction scope words = .ok result ↔
      ∃ given, before.settle = .ok given ∧ result = given.extended [] words ∧ result.Proper scope := by
  induction words generalizing before with
  | nil =>
    constructor
    · intro settled
      exact ⟨result, settled, Given.extended_nil.symm, sound result settled⟩
    · rintro ⟨given, settled, rfl, -⟩
      rw [Given.extended_nil]
      exact settled
  | cons word rest ih =>
    rw [readAction_cons]
    constructor
    · rintro ⟨after, stepped, read⟩
      rw [step_of_literal literal] at stepped
      have placed := placed_of_place stepped
      have closed : after.literal = true := by rw [placed.literal, literal, Bool.true_or]
      obtain ⟨given', settled', rfl, proper⟩ := (ih closed placed.whole (sound.placed placed)).1 read
      obtain ⟨given, settled, rfl⟩ := placed.said settled'
      exact ⟨given, settled, Given.extended_extended _ _, proper⟩
    · rintro ⟨given, settled, rfl, proper⟩
      have first : (given.extended [] [word]).Proper scope := by
        rw [← Given.extended_word] at proper
        exact proper.of_extended
      obtain ⟨after, placed, settles⟩ := placed_of_proper whole settled first
      have closed : after.literal = true := by rw [placed.literal, literal, Bool.true_or]
      refine ⟨after, by rw [step_of_literal literal]; exact placed.place, ?_⟩
      exact (ih closed placed.whole (.of_settle settles first)).2
        ⟨_, settles, (Given.extended_word word).symm, proper⟩

/-- The words of an item are read as the item. -/
theorem readAction_item (ready : before.Ready) (fits : item.Fits scope)
    (absorbed : before.absorb item = .ok after) :
    before.readAction scope (item.words ++ rest) = after.readAction scope rest := by
  cases steps_of_absorb ready.unclosed fits absorbed with
  | one word words begins step =>
    rw [words, List.singleton_append, readAction, step]
    rfl
  | two word value key waiting words begins first held unclosed second =>
    rw [words, List.cons_append, List.singleton_append, readAction, first]
    change waiting.readAction scope (value :: rest) = _
    rw [readAction, second]
    rfl

theorem pass_of_ready (ready : before.Ready) : before.pass scope word = before.place scope word := by
  rw [pass, ready.awaiting]

/-- Items and plain words that come to something proper are read as they are spelt. -/
theorem readAction_of_spells (spelt : Spells scope items plain words) (ready : before.Ready)
    (settled : before.settle = .ok given) (proper : (given.extended items plain).Proper scope) :
    before.readAction scope words = .ok (given.extended items plain) := by
  induction spelt generalizing before given with
  | nothing =>
    rw [Given.extended_nil]
    exact settled
  | @item item items plain rest fits more ih =>
    rw [← Given.extended_item] at proper ⊢
    have accepted := (Given.accept_eq_ok_iff proper.of_extended.of_extended).2 ⟨rfl, proper.of_extended⟩
    obtain ⟨after, absorbed, settles⟩ := absorb_of_accept settled accepted
    rw [readAction_item ready fits absorbed]
    exact ih (ready.absorb absorbed) settles proper
  | @plain word items plain rest stays free more ih =>
    rw [← Given.extended_word] at proper ⊢
    obtain ⟨after, placed, settles⟩ := placed_of_proper ready.toWhole settled proper.of_extended
    have unclosed : after.literal = false := by rw [placed.literal, ready.unclosed, stays]; rfl
    refine readAction_cons.2 ⟨after, ?_, ih { placed.whole with unclosed } settles proper⟩
    rw [step_free ready.unclosed free, pass_of_ready ready]
    exact placed.place
  | literal words =>
    let closed : Progress := { before with literal := true }
    have literal : closed.literal = true := rfl
    have sound : closed.Sound scope := .of_settle settled proper.of_extended
    refine readAction_cons.2 ⟨closed, step_twoHyphens ready.unclosed, ?_⟩
    exact (readAction_literal literal ⟨ready.valued, ready.worded⟩ sound).2 ⟨given, settled, rfl, proper⟩
  | @handedOn word forwards free words =>
    rw [← Given.extended_word] at proper ⊢
    have first := proper.of_extended
    obtain ⟨after, placed, settles⟩ := placed_of_proper ready.toWhole settled first
    have closed : after.literal = true := by rw [placed.literal, forwards, Bool.or_true]
    refine readAction_cons.2 ⟨after, ?_, ?_⟩
    · rw [step_free ready.unclosed free, pass_of_ready ready]
      exact placed.place
    · exact (readAction_literal closed placed.whole (.of_settle settles first)).2
        ⟨_, settles, rfl, proper⟩

/-- What some words come to from a progress on: they spell some items and some plain words, and these are
added to what the progress settles to. -/
def Amounts (scope : Scope) (before : Progress) (words : List Bytes) (result : Given) : Prop :=
  ∃ given items plain, before.settle = .ok given ∧ Spells scope items plain words ∧
    result = given.extended items plain ∧ result.Proper scope

theorem Amounts.behind_item (sound : before.Sound scope) (fits : item.Fits scope)
    (absorbed : before.absorb item = .ok after) (h : Amounts scope after rest result) :
    Amounts scope before (item.words ++ rest) result := by
  obtain ⟨taken, items, plain, settles, spelt, rfl, proper⟩ := h
  obtain ⟨given, settled, rfl, -⟩ := added_of_absorb sound absorbed settles
  exact ⟨given, item :: items, plain, settled, spelt.item fits, Given.extended_item, proper⟩

theorem Amounts.behind_word (placed : Placed before word scope after) (stays : scope.forwards = false)
    (free : scope.Free word) (h : Amounts scope after rest result) :
    Amounts scope before (word :: rest) result := by
  obtain ⟨taken, items, plain, settles, spelt, rfl, proper⟩ := h
  obtain ⟨given, settled, rfl⟩ := placed.said settles
  exact ⟨given, items, word :: plain, settled, spelt.plain stays free, Given.extended_word word, proper⟩

theorem amounts_of_literal (ready : before.Ready) (sound : before.Sound scope)
    (h : ({ before with literal := true } : Progress).readAction scope rest = .ok result) :
    Amounts scope before (twoHyphens :: rest) result := by
  let closed : Progress := { before with literal := true }
  have literal : closed.literal = true := rfl
  have sound' : closed.Sound scope := sound
  obtain ⟨given, settled, rfl, proper⟩ :=
    (readAction_literal literal ⟨ready.valued, ready.worded⟩ sound').1 h
  exact ⟨given, [], rest, settled, .literal rest, rfl, proper⟩

theorem amounts_of_handedOn (sound : before.Sound scope) (placed : Placed before word scope after)
    (forwards : scope.forwards = true) (free : scope.Free word)
    (h : after.readAction scope rest = .ok result) : Amounts scope before (word :: rest) result := by
  have closed : after.literal = true := by rw [placed.literal, forwards, Bool.or_true]
  obtain ⟨taken, settles, rfl, proper⟩ :=
    (readAction_literal closed placed.whole (sound.placed placed)).1 h
  obtain ⟨given, settled, rfl⟩ := placed.said settles
  exact ⟨given, [], word :: rest, settled, .handedOn forwards free rest, Given.extended_word word, proper⟩

/-- What is read in the end is what the words come to. -/
theorem amounts_of_readAction {before : Progress} {words : List Bytes} (ready : before.Ready)
    (sound : before.Sound scope) (h : before.readAction scope words = .ok result) :
    Amounts scope before words result := by
  match words with
  | [] => exact ⟨result, [], [], h, .nothing, Given.extended_nil.symm, sound result h⟩
  | word :: rest =>
    obtain ⟨after, stepped, read⟩ := readAction_cons.1 h
    cases step_course ready.unclosed stepped with
    | item item fits spelt absorbed =>
      have later := amounts_of_readAction (ready.absorb absorbed) (sound.absorb absorbed) read
      have all := later.behind_item sound fits absorbed
      rwa [spelt] at all
    | option key known eq awaited =>
      cases rest with
      | nil =>
        obtain ⟨held, -⟩ := held_of_await awaited
        cases (settle_of_waiting held).symm.trans read
      | cons value rest =>
        obtain ⟨last, stepped', read'⟩ := readAction_cons.1 read
        rcases absorb_of_await ready.unclosed known awaited stepped' with ⟨held, literal⟩ | ⟨fits, absorbed⟩
        · exact absurd read' (not_readAction_of_waiting held literal)
        · have later := amounts_of_readAction (ready.absorb absorbed) (sound.absorb absorbed) read'
          have all := later.behind_item sound fits absorbed
          rwa [Item.words, ← eq] at all
    | literal eq closed =>
      subst eq closed
      exact amounts_of_literal ready sound read
    | plain free passed =>
      rw [pass_of_ready ready] at passed
      have placed := placed_of_place passed
      cases forwards : scope.forwards with
      | true => exact amounts_of_handedOn sound placed forwards free read
      | false =>
        have unclosed : after.literal = false := by rw [placed.literal, ready.unclosed, forwards]; rfl
        have later := amounts_of_readAction { placed.whole with unclosed } (sound.placed placed) read
        exact later.behind_word placed forwards free
termination_by words.length

/-- The words of an action are read if they spell what the scope can be given, and as that. -/
theorem readAction_eq_ok_iff : start.readAction scope words = .ok result ↔
    ∃ items plain, Spells scope items plain words ∧ result = .of items plain ∧ result.Proper scope := by
  constructor
  · intro h
    obtain ⟨given, items, plain, settled, spelt, rfl, proper⟩ :=
      amounts_of_readAction ready_start (sound_start scope) h
    cases settle_start.symm.trans settled
    exact ⟨items, plain, spelt, rfl, proper⟩
  · rintro ⟨items, plain, spelt, rfl, proper⟩
    exact readAction_of_spells spelt ready_start settle_start proper

/-! ## The tool's own words -/

theorem readTool_name {name : Bytes} (ready : before.Ready) (named : (name, scope) ∈ actionNames) :
    before.readTool (name :: rest) = .ok (before, some (scope, rest)) := by
  have found := action?_eq_some_iff.2 named
  have other : name ≠ helpWord := by
    rintro rfl
    cases found
  simp [readTool, ready.unclosed, ready.awaiting, found, other]

/-- A word that begins with a hyphen names no action, and asks for no help by its name. -/
theorem readTool_hyphen (ready : before.Ready) (begins : word.head? = some hyphen) :
    before.readTool (word :: rest) = before.step .tool word >>= (·.readTool rest) := by
  have unnamed : action? word = none := by
    rw [Option.eq_none_iff_forall_ne_some]
    intro scope named
    exact head?_of_actionNames (action?_eq_some_iff.1 named) begins
  have other : word ≠ helpWord := by
    rintro rfl
    cases begins
  simp [readTool, ready.unclosed, ready.awaiting, unnamed, other]

theorem readTool_of_waiting (held : before.held = .option key none) (unclosed : before.literal = false) :
    before.readTool (word :: rest) = before.step .tool word >>= (·.readTool rest) := by
  have waits : before.awaiting = some key := by simp [awaiting, held, unclosed]
  simp [readTool, waits]

theorem not_place_tool : before.place .tool word ≠ .ok after := by
  intro h
  cases placed_of_place h

/-- No action is named behind two hyphens. -/
theorem not_readTool_literal {named : Scope × List Bytes} (literal : before.literal = true) :
    before.readTool words ≠ .ok (after, some named) := by
  intro h
  cases words with
  | nil => cases h
  | cons word rest =>
    rw [readTool, literal, Bool.true_or, if_pos rfl] at h
    obtain ⟨middle, stepped, -⟩ := bind_eq_ok_iff.1 h
    rw [step_of_literal literal] at stepped
    exact not_place_tool stepped

theorem readTool_item (ready : before.Ready) (fits : item.Fits .tool)
    (absorbed : before.absorb item = .ok after) :
    before.readTool (item.words ++ rest) = after.readTool rest := by
  cases steps_of_absorb ready.unclosed fits absorbed with
  | one word words begins step =>
    rw [words, List.singleton_append, readTool_hyphen ready begins, step]
    rfl
  | two word value key waiting words begins first held unclosed second =>
    rw [words, List.cons_append, List.singleton_append, readTool_hyphen ready begins, first]
    change waiting.readTool (value :: rest) = _
    rw [readTool_of_waiting held unclosed, second]
    rfl

/-- Items that come to something proper are read, up to the name of an action. -/
theorem readTool_of_items {name : Bytes} (fits : ∀ item ∈ items, item.Fits .tool)
    (named : (name, scope) ∈ actionNames) (ready : before.Ready) (settled : before.settle = .ok given)
    (proper : (given.extended items []).Proper .tool) :
    ∃ after, before.readTool (wordsOf items ++ name :: rest) = .ok (after, some (scope, rest)) ∧
      after.settle = .ok (given.extended items []) := by
  induction items generalizing before given with
  | nil => exact ⟨before, readTool_name ready named, by rw [Given.extended_nil, settled]⟩
  | cons item items ih =>
    rw [← Given.extended_item] at proper ⊢
    have accepted := (Given.accept_eq_ok_iff proper.of_extended.of_extended).2 ⟨rfl, proper.of_extended⟩
    obtain ⟨middle, absorbed, settles⟩ := absorb_of_accept settled accepted
    rw [wordsOf_cons, List.append_assoc, readTool_item ready (fits item List.mem_cons_self) absorbed]
    exact ih (fun other mem => fits other (List.mem_cons_of_mem _ mem)) (ready.absorb absorbed) settles proper

/-- What some words come to from a progress on, up to the name of an action: they spell some items, and
these are added to what the progress settles to. -/
def AmountsTo (before : Progress) (words : List Bytes) (scope : Scope) (rest : List Bytes)
    (result : Given) : Prop :=
  ∃ given items name, before.settle = .ok given ∧ words = wordsOf items ++ name :: rest ∧
    (∀ item ∈ items, item.Fits .tool) ∧ (name, scope) ∈ actionNames ∧
    result = given.extended items [] ∧ result.Proper .tool

theorem AmountsTo.behind_item (sound : before.Sound .tool) (fits : item.Fits .tool)
    (absorbed : before.absorb item = .ok after) (h : AmountsTo after words scope rest result) :
    AmountsTo before (item.words ++ words) scope rest result := by
  obtain ⟨taken, items, name, settles, rfl, fit, named, rfl, proper⟩ := h
  obtain ⟨given, settled, rfl, -⟩ := added_of_absorb sound absorbed settles
  refine ⟨given, item :: items, name, settled, ?_, ?_, named, Given.extended_item, proper⟩
  · rw [wordsOf_cons, List.append_assoc]
  · exact List.forall_mem_cons.2 ⟨fits, fit⟩

/-- Between two items a word names an action, or it is read as the next word. -/
theorem readTool_cases {named : Scope × List Bytes} (ready : before.Ready)
    (h : before.readTool (word :: words) = .ok (after, some named)) :
    (word, named.1) ∈ actionNames ∧ named.2 = words ∧ after = before ∨
      ∃ middle, before.step .tool word = .ok middle ∧ middle.readTool words = .ok (after, some named) := by
  rw [readTool, ready.unclosed, ready.awaiting] at h
  simp only [Option.isSome_none, Bool.or_self, Bool.false_eq_true, if_false] at h
  split at h
  · cases h
  · split at h
    · rename_i found
      cases h
      exact .inl ⟨action?_eq_some_iff.1 found, rfl, rfl⟩
    · exact .inr (bind_eq_ok_iff.1 h)

/-- Nothing but items stands before the name of an action, and what is read of them settles to what
they come to. -/
theorem amountsTo_of_readTool {before : Progress} {words : List Bytes} (ready : before.Ready)
    (sound : before.Sound .tool) (h : before.readTool words = .ok (after, some (scope, rest)))
    (settles : after.settle = .ok result) : AmountsTo before words scope rest result := by
  match words with
  | [] => cases h
  | word :: words =>
    rcases readTool_cases ready h with ⟨named, rfl, rfl⟩ | ⟨middle, stepped, read⟩
    · exact ⟨result, [], word, settles, rfl, nofun, named, Given.extended_nil.symm, sound result settles⟩
    cases step_course ready.unclosed stepped with
    | item item fits spelt absorbed =>
      have later := amountsTo_of_readTool (ready.absorb absorbed) (sound.absorb absorbed) read settles
      have all := later.behind_item sound fits absorbed
      rwa [spelt] at all
    | option key known eq awaited =>
      cases words with
      | nil => cases read
      | cons value words =>
        obtain ⟨held, same⟩ := held_of_await awaited
        rw [readTool_of_waiting held (same.trans ready.unclosed)] at read
        obtain ⟨last, stepped', read'⟩ := bind_eq_ok_iff.1 read
        rcases absorb_of_await ready.unclosed known awaited stepped' with ⟨-, literal⟩ | ⟨fits, absorbed⟩
        · exact absurd read' (not_readTool_literal literal)
        · have later := amountsTo_of_readTool (ready.absorb absorbed) (sound.absorb absorbed) read' settles
          have all := later.behind_item sound fits absorbed
          rwa [Item.words, ← eq] at all
    | literal eq closed =>
      have literal : middle.literal = true := by rw [closed]
      exact absurd read (not_readTool_literal literal)
    | plain free passed =>
      rw [pass_of_ready ready] at passed
      exact absurd passed not_place_tool
termination_by words.length

/-- The tool's own words are read up to the name of an action if they spell what the tool can be given,
and as that. -/
theorem readTool_eq_ok_iff :
    (∃ after, start.readTool words = .ok (after, some (scope, rest)) ∧ after.settle = .ok result) ↔
      ∃ items name, words = wordsOf items ++ name :: rest ∧ (∀ item ∈ items, item.Fits .tool) ∧
        (name, scope) ∈ actionNames ∧ result = .of items [] ∧ result.Proper .tool := by
  constructor
  · rintro ⟨after, read, settles⟩
    obtain ⟨given, items, name, settled, eq, fits, named, rfl, proper⟩ :=
      amountsTo_of_readTool ready_start (sound_start .tool) read settles
    cases settle_start.symm.trans settled
    exact ⟨items, name, eq, fits, named, rfl, proper⟩
  · rintro ⟨items, name, rfl, fits, named, rfl, proper⟩
    exact readTool_of_items fits named ready_start settle_start proper

end Progress
end Offscreen.CommandLine
