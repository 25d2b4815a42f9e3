import Offscreen.CommandLine.Grammar
import Offscreen.Proofs.Bytes
import Mathlib.Tactic.SplitIfs

/-!
# How a command line is spelt

An option stands with its value in one word or in two, a flag stands by its name or by its letter.
`Spells` says which words of a scope spell which items and which plain words, and `Line.Spelt` says so
of a whole command line; neither knows of a reader. Nothing can be spelt so in two ways
(`Spells.unique`, `Line.Spelt.unique`).
-/

namespace Offscreen.CommandLine
set_option autoImplicit false

/-! ## The look of a word -/

/-- Two hyphens. -/
def twoHyphens : Bytes := [hyphen, hyphen]

namespace Shape
variable {word name letters : Bytes} {value : Option Bytes}

theorem of_twoHyphens : Shape.of twoHyphens = .dashes := rfl

theorem of_plain (h : word.head? ≠ some hyphen) : Shape.of word = .plain := by
  unfold Shape.of
  split
  · rename_i a b rest
    have ne : a ≠ hyphen := fun eq => h (congrArg some eq)
    rw [if_pos ne]
  · rfl

theorem of_long (named : name ≠ []) (h : equals ∉ name) :
    Shape.of (twoHyphens ++ name) = .long name none := by
  change Shape.of (hyphen :: hyphen :: name) = _
  simp [Shape.of, named, Bytes.cut_of_not_mem h]

theorem of_long_value (h : equals ∉ name) (value : Bytes) :
    Shape.of (twoHyphens ++ name ++ equals :: value) = .long name (some value) := by
  change Shape.of (hyphen :: hyphen :: (name ++ equals :: value)) = _
  simp [Shape.of, Bytes.cut_append h]

theorem of_short {letter : UInt8} (h : letter ≠ hyphen) (letters : Bytes) :
    Shape.of (hyphen :: letter :: letters) = .short (letter :: letters) := by
  simp [Shape.of, h]

/-- A word with the look of an option is made up of its hyphens, its name and its value. -/
theorem eq_of_long (h : Shape.of word = .long name value) :
    word = twoHyphens ++ name ++ (value.map (equals :: ·)).getD [] := by
  unfold Shape.of at h
  split at h
  · rename_i a b rest
    split_ifs at h with first second
    have whole := Bytes.eq_of_cut equals rest
    simp only [Shape.long.injEq] at h
    obtain ⟨rfl, rfl⟩ := h
    rw [Decidable.not_not.1 first, Decidable.not_not.1 second]
    exact congrArg (hyphen :: hyphen :: ·) whole
  · cases h

theorem eq_of_short (h : Shape.of word = .short letters) : word = hyphen :: letters ∧ letters ≠ [] := by
  unfold Shape.of at h
  split at h
  · rename_i a b rest
    split_ifs at h with first second
    cases h
    exact ⟨by rw [Decidable.not_not.1 first], List.cons_ne_nil _ _⟩
  · cases h

theorem eq_of_dashes (h : Shape.of word = .dashes) : word = twoHyphens := by
  unfold Shape.of at h
  split at h
  · rename_i a b rest
    split_ifs at h with first second last
    rw [Decidable.not_not.1 first, Decidable.not_not.1 second, last]
    rfl
  · cases h

end Shape

/-! ## The names of a scope -/

theorem Key.name_ne_nil (key : Key) : key.name ≠ [] := by cases key <;> decide

theorem Key.equals_not_mem_name (key : Key) : equals ∉ key.name := by cases key <;> decide

theorem Key.name_injective {a b : Key} (h : a.name = b.name) : a = b := by
  revert h
  cases a <;> cases b <;> decide

theorem Flag.name_ne_nil (flag : Flag) : flag.name ≠ [] := by cases flag <;> decide

theorem Flag.equals_not_mem_name (flag : Flag) : equals ∉ flag.name := by cases flag <;> decide

theorem Flag.name_injective {a b : Flag} (h : a.name = b.name) : a = b := by
  revert h
  cases a <;> cases b <;> decide

theorem Flag.letter_ne_hyphen {flag : Flag} {letter : UInt8} (h : flag.letter? = some letter) :
    letter ≠ hyphen := by
  cases flag <;> cases h <;> decide

theorem Flag.letter_injective {a b : Flag} {letter : UInt8} (ha : a.letter? = some letter)
    (hb : b.letter? = some letter) : a = b := by
  cases a <;> cases ha <;> cases b <;> first | rfl | cases hb

/-- No flag has the name of an option. -/
theorem Key.name_ne_flag_name (key : Key) (flag : Flag) : key.name ≠ flag.name := by
  cases key <;> cases flag <;> decide

namespace Scope
variable {scope : Scope} {name : Bytes} {letter : UInt8}

theorem key?_name {key : Key} (h : key ∈ scope.keys) : scope.key? key.name = some key := by
  revert h
  cases scope <;> cases key <;> decide

theorem flag?_name {flag : Flag} (h : flag ∈ scope.flags) : scope.flag? flag.name = some flag := by
  revert h
  cases scope <;> cases flag <;> decide

theorem letter?_letter {flag : Flag} (h : flag ∈ scope.flags) (has : flag.letter? = some letter) :
    scope.letter? letter = some flag := by
  revert h
  cases flag <;> cases has <;> cases scope <;> decide

theorem eq_of_key? {key : Key} (h : scope.key? name = some key) : key ∈ scope.keys ∧ key.name = name :=
  ⟨List.mem_of_find?_eq_some h, by simpa using List.find?_some h⟩

theorem eq_of_flag? {flag : Flag} (h : scope.flag? name = some flag) :
    flag ∈ scope.flags ∧ flag.name = name :=
  ⟨List.mem_of_find?_eq_some h, by simpa using List.find?_some h⟩

theorem eq_of_letter? {flag : Flag} (h : scope.letter? letter = some flag) :
    flag ∈ scope.flags ∧ flag.letter? = some letter :=
  ⟨List.mem_of_find?_eq_some h, by simpa using List.find?_some h⟩

theorem key?_flag_name (flag : Flag) : scope.key? flag.name = none := by
  cases scope <;> cases flag <;> decide

/-- A word that a scope reads as no option and no flag of its own: a plain word, and where words are
handed on also one that looks like an option and is none. -/
def Free (scope : Scope) (word : Bytes) : Prop :=
  match Shape.of word with
  | .plain => True
  | .dashes => False
  | .long name _ =>
    scope.forwards = true ∧ scope.key? name = none ∧ scope.flag? name = none ∧ Utf8.isText name = true
  | .short letters => scope.forwards = true ∧ ∃ letter ∈ letters, scope.letter? letter = none

theorem free_of_plain {word : Bytes} (h : Shape.of word = .plain) : scope.Free word := by
  rw [Free, h]
  trivial

theorem not_free_twoHyphens : ¬scope.Free twoHyphens := id

end Scope

/-! ## Items -/

/-- An option with its value, or a flag, in one of the ways in which they can be written. -/
inductive Item where
  /-- An option with its value in one word, an equals sign between them. -/
  | joined (key : Key) (value : Bytes)
  /-- An option with its value in the next word. -/
  | apart (key : Key) (value : Bytes)
  /-- A flag by its name. -/
  | named (flag : Flag)
  /-- A flag by its letter. -/
  | lettered (flag : Flag) (letter : UInt8)
  deriving DecidableEq, Repr

namespace Item

/-- The words that an item is written in. -/
def words : Item → List Bytes
  | joined key value => [twoHyphens ++ key.name ++ equals :: value]
  | apart key value => [twoHyphens ++ key.name, value]
  | named flag => [twoHyphens ++ flag.name]
  | lettered _ letter => [[hyphen, letter]]

/-- The option of an item with its value. -/
def entry? : Item → Option (Key × Bytes)
  | joined key value | apart key value => some (key, value)
  | named _ | lettered _ _ => none

/-- The flag of an item. -/
def flag? : Item → Option Flag
  | joined _ _ | apart _ _ => none
  | named flag | lettered flag _ => some flag

/-- Whether an item can stand in a scope. A value in a word of its own must not look like an option of
the scope. -/
def Fits (scope : Scope) : Item → Prop
  | joined key _ => key ∈ scope.keys
  | apart key value => key ∈ scope.keys ∧ scope.Free value
  | named flag => flag ∈ scope.flags
  | lettered flag letter => flag ∈ scope.flags ∧ flag.letter? = some letter

/-- The look of the first word of an item. -/
def lead : Item → Shape
  | joined key value => .long key.name (some value)
  | apart key _ => .long key.name none
  | named flag => .long flag.name none
  | lettered _ letter => .short [letter]

variable {scope : Scope} {a b : Item} {word : Bytes} {r s : List Bytes}

theorem words_eq_cons (fits : a.Fits scope) :
    ∃ word rest, a.words = word :: rest ∧ Shape.of word = a.lead ∧ word.head? = some hyphen := by
  cases a with
  | joined key value => exact ⟨_, _, rfl, Shape.of_long_value key.equals_not_mem_name value, rfl⟩
  | apart key value =>
    exact ⟨_, _, rfl, Shape.of_long key.name_ne_nil key.equals_not_mem_name, rfl⟩
  | named flag =>
    exact ⟨_, _, rfl, Shape.of_long flag.name_ne_nil flag.equals_not_mem_name, rfl⟩
  | lettered flag letter =>
    exact ⟨_, _, rfl, Shape.of_short (Flag.letter_ne_hyphen fits.2) [], rfl⟩

/-- An item begins with a word that its scope knows. -/
theorem Fits.not_free (fits : a.Fits scope) (first : Shape.of word = a.lead) : ¬scope.Free word := by
  intro free
  rw [Scope.Free, first] at free
  cases a with
  | joined key value => exact nomatch (Scope.key?_name fits).symm.trans free.2.1
  | apart key value => exact nomatch (Scope.key?_name fits.1).symm.trans free.2.1
  | named flag => exact nomatch (Scope.flag?_name fits).symm.trans free.2.2.1
  | lettered flag letter =>
    obtain ⟨-, other, mem, unknown⟩ := free
    cases List.mem_singleton.1 mem
    exact nomatch (Scope.letter?_letter fits.1 fits.2).symm.trans unknown

/-- Where two items of a scope begin alike, they are the same item. -/
theorem words_append_inj (ha : a.Fits scope) (hb : b.Fits scope) (h : a.words ++ r = b.words ++ s) :
    a = b ∧ r = s := by
  obtain ⟨x, xs, wordsA, leadA, -⟩ := words_eq_cons ha
  obtain ⟨y, ys, wordsB, leadB, -⟩ := words_eq_cons hb
  have heads : x = y := by
    rw [wordsA, wordsB] at h
    exact (List.cons.inj h).1
  have leads : a.lead = b.lead := by rw [← leadA, ← leadB, heads]
  have same : a = b := by
    cases a <;> cases b <;> simp only [lead, Shape.long.injEq, Shape.short.injEq, List.cons.injEq,
      reduceCtorEq, and_true, and_false] at leads
    case joined.joined => rw [Key.name_injective leads.1, Option.some.inj leads.2]
    case apart.apart key value other _ =>
      have values := (List.cons.inj (List.cons.inj h).2).1
      rw [Key.name_injective leads, values]
    case apart.named => exact absurd leads (Key.name_ne_flag_name _ _)
    case named.apart => exact absurd leads.symm (Key.name_ne_flag_name _ _)
    case named.named => rw [Flag.name_injective leads]
    case lettered.lettered =>
      subst leads
      rw [Flag.letter_injective ha.2 hb.2]
  subst same
  exact ⟨rfl, List.append_cancel_left h⟩

end Item

/-- The words that some items are written in, one after the other. -/
def wordsOf (items : List Item) : List Bytes :=
  items.flatMap Item.words

@[simp] theorem wordsOf_cons (item : Item) (items : List Item) :
    wordsOf (item :: items) = item.words ++ wordsOf items := rfl

/-- The values that some items give an option, in order. -/
def valuesIn (key : Key) (items : List Item) : List Bytes :=
  ((items.filterMap Item.entry?).filter fun entry => entry.1 = key).map (·.2)

/-- The flags among some items, in order. -/
def flagsIn (items : List Item) : List Flag :=
  items.filterMap Item.flag?

/-! ## Scopes and lines -/

/-- Which words of a scope spell which items and which plain words. After two hyphens every word is
plain, and where words are handed on so is every word from the first plain one on. -/
inductive Spells (scope : Scope) : List Item → List Bytes → List Bytes → Prop where
  | nothing : Spells scope [] [] []
  | item {item : Item} {items : List Item} {words rest : List Bytes} (fits : item.Fits scope)
      (more : Spells scope items words rest) : Spells scope (item :: items) words (item.words ++ rest)
  | plain {word : Bytes} {items : List Item} {words rest : List Bytes}
      (stays : scope.forwards = false) (free : scope.Free word) (more : Spells scope items words rest) :
      Spells scope items (word :: words) (word :: rest)
  | literal (words : List Bytes) : Spells scope [] words (twoHyphens :: words)
  | handedOn {word : Bytes} (forwards : scope.forwards = true) (free : scope.Free word)
      (words : List Bytes) : Spells scope [] (word :: words) (word :: words)

/-- A command line with an action, taken apart. -/
structure Line where
  /-- The items before the name of the action. -/
  outer : List Item
  /-- The scope of the action. -/
  scope : Scope
  /-- The items after the name of the action. -/
  inner : List Item
  /-- The plain words after the name of the action. -/
  words : List Bytes

/-- Which words spell a command line. -/
inductive Line.Spelt (line : Line) : List Bytes → Prop where
  | intro {name : Bytes} {rest : List Bytes} (outer : ∀ item ∈ line.outer, item.Fits .tool)
      (named : (name, line.scope) ∈ actionNames)
      (inner : Spells line.scope line.inner line.words rest) :
      line.Spelt (wordsOf line.outer ++ name :: rest)

namespace Spells
variable {scope : Scope} {items : List Item} {words rest : List Bytes}

/-- In the scope of `run` the plain words are handed on as they stand, and nothing but items and
perhaps two hyphens stands before them. -/
theorem eq_append (h : Spells .run items words rest) :
    (∀ item ∈ items, item.Fits .run) ∧
      ∃ mark, (mark = [] ∨ mark = [twoHyphens]) ∧ rest = wordsOf items ++ mark ++ words := by
  induction h with
  | nothing => exact ⟨nofun, [], .inl rfl, rfl⟩
  | item fits more ih =>
    obtain ⟨fit, mark, ends, rfl⟩ := ih
    refine ⟨?_, mark, ends, ?_⟩
    · intro item mem
      rcases List.mem_cons.1 mem with rfl | mem
      · exact fits
      · exact fit item mem
    · simp only [wordsOf_cons, List.append_assoc]
  | plain stays => cases stays
  | literal words => exact ⟨nofun, [twoHyphens], .inr rfl, rfl⟩
  | handedOn => exact ⟨nofun, [], .inl rfl, rfl⟩

/-- Items spell themselves in front of whatever else spells something. -/
theorem append {front : List Item} (fits : ∀ item ∈ front, item.Fits scope)
    (h : Spells scope items words rest) : Spells scope (front ++ items) words (wordsOf front ++ rest) := by
  induction front with
  | nil => exact h
  | cons item front ih =>
    have later := ih fun other mem => fits other (List.mem_cons_of_mem _ mem)
    simpa using later.item (fits item List.mem_cons_self)

/-- The first plain word decides: whatever words follow it in the scope of `run` are plain too. -/
theorem replace {first : Bytes} (h : Spells .run items (first :: words) rest) (other : List Bytes) :
    ∃ before, rest = before ++ first :: words ∧ Spells .run items (first :: other) (before ++ first :: other) := by
  generalize handed : first :: words = all at h
  induction h with
  | nothing => cases handed
  | @item item _ _ _ fits more ih =>
    obtain ⟨before, rfl, spelt⟩ := ih handed
    refine ⟨item.words ++ before, by simp, ?_⟩
    rw [List.append_assoc]
    exact spelt.item fits
  | plain stays => cases stays
  | literal all =>
    subst handed
    exact ⟨[twoHyphens], rfl, .literal _⟩
  | handedOn forwards free all =>
    cases handed
    exact ⟨[], rfl, .handedOn forwards free _⟩

theorem eq_of_nil (h : Spells scope items words []) : items = [] ∧ words = [] := by
  generalize none : ([] : List Bytes) = rest at h
  cases h with
  | nothing => exact ⟨rfl, rfl⟩
  | item fits =>
    obtain ⟨word, tail, begins, -⟩ := Item.words_eq_cons fits
    rw [begins] at none
    cases none
  | plain => cases none
  | literal => cases none
  | handedOn => cases none

theorem eq_of_item {item : Item} (fits : item.Fits scope)
    (h : Spells scope items words (item.words ++ rest)) :
    ∃ more, items = item :: more ∧ Spells scope more words rest := by
  obtain ⟨first, tail, begins, look, -⟩ := Item.words_eq_cons fits
  generalize same : item.words ++ rest = all at h
  cases h with
  | nothing =>
    rw [begins] at same
    cases same
  | item other more =>
    obtain ⟨rfl, rfl⟩ := Item.words_append_inj fits other same
    exact ⟨_, rfl, more⟩
  | plain _ free =>
    rw [begins] at same
    cases same
    exact absurd free (fits.not_free look)
  | literal =>
    rw [begins] at same
    cases same
    cases item <;> cases look
  | handedOn _ free =>
    rw [begins] at same
    cases same
    exact absurd free (fits.not_free look)

theorem eq_of_twoHyphens (h : Spells scope items words (twoHyphens :: rest)) :
    items = [] ∧ words = rest := by
  generalize same : twoHyphens :: rest = all at h
  cases h with
  | nothing => cases same
  | @item item _ _ _ fits =>
    obtain ⟨first, tail, begins, look, -⟩ := Item.words_eq_cons fits
    rw [begins] at same
    cases same
    cases item <;> cases look
  | plain _ free =>
    cases same
    exact absurd free Scope.not_free_twoHyphens
  | literal =>
    cases same
    exact ⟨rfl, rfl⟩
  | handedOn _ free =>
    cases same
    exact absurd free Scope.not_free_twoHyphens

theorem eq_of_free {word : Bytes} (free : scope.Free word) (h : Spells scope items words (word :: rest)) :
    ∃ more, words = word :: more ∧
      (scope.forwards = false ∧ Spells scope items more rest ∨
        scope.forwards = true ∧ items = [] ∧ more = rest) := by
  generalize same : word :: rest = all at h
  cases h with
  | nothing => cases same
  | item fits =>
    obtain ⟨first, tail, begins, look, -⟩ := Item.words_eq_cons fits
    rw [begins] at same
    cases same
    exact absurd free (fits.not_free look)
  | plain stays _ more =>
    cases same
    exact ⟨_, rfl, .inl ⟨stays, more⟩⟩
  | literal =>
    cases same
    exact absurd free Scope.not_free_twoHyphens
  | handedOn forwards =>
    cases same
    exact ⟨_, rfl, .inr ⟨forwards, rfl, rfl⟩⟩

/-- The words of a scope spell one list of items and one list of plain words. -/
theorem unique {items' : List Item} {words' : List Bytes} (h : Spells scope items words rest)
    (h' : Spells scope items' words' rest) : items = items' ∧ words = words' := by
  induction h generalizing items' words' with
  | nothing =>
    obtain ⟨rfl, rfl⟩ := eq_of_nil h'
    exact ⟨rfl, rfl⟩
  | item fits _ ih =>
    obtain ⟨more, rfl, spelt⟩ := eq_of_item fits h'
    obtain ⟨rfl, rfl⟩ := ih spelt
    exact ⟨rfl, rfl⟩
  | plain stays free _ ih =>
    obtain ⟨more, rfl, ⟨-, spelt⟩ | ⟨forwards, -⟩⟩ := eq_of_free free h'
    · obtain ⟨rfl, rfl⟩ := ih spelt
      exact ⟨rfl, rfl⟩
    · cases stays.symm.trans forwards
  | literal all =>
    obtain ⟨rfl, rfl⟩ := eq_of_twoHyphens h'
    exact ⟨rfl, rfl⟩
  | handedOn forwards free all =>
    obtain ⟨more, rfl, ⟨stays, -⟩ | ⟨-, rfl, rfl⟩⟩ := eq_of_free free h'
    · cases stays.symm.trans forwards
    · exact ⟨rfl, rfl⟩

end Spells

theorem action?_eq_some_iff {name : Bytes} {scope : Scope} :
    action? name = some scope ↔ (name, scope) ∈ actionNames := by
  constructor
  · intro h
    obtain ⟨entry, found, rfl⟩ := Option.map_eq_some_iff.1 h
    have same : entry.1 = name := by simpa using List.find?_some found
    exact same ▸ List.mem_of_find?_eq_some found
  · intro h
    simp only [actionNames, List.mem_cons, Prod.mk.injEq, List.not_mem_nil, or_false] at h
    rcases h with ⟨rfl, rfl⟩ | ⟨rfl, rfl⟩ | ⟨rfl, rfl⟩ <;> decide

/-- No word that names an action begins as an item does. -/
theorem head?_of_actionNames {name : Bytes} {scope : Scope} (h : (name, scope) ∈ actionNames) :
    name.head? ≠ some hyphen := by
  simp only [actionNames, List.mem_cons, Prod.mk.injEq, List.not_mem_nil, or_false] at h
  rcases h with ⟨rfl, -⟩ | ⟨rfl, -⟩ | ⟨rfl, -⟩ <;> decide

/-- The items in front of a word that begins none are told apart from it. -/
theorem wordsOf_append_inj {scope : Scope} {front front' : List Item} {name name' : Bytes}
    {rest rest' : List Bytes} (fits : ∀ item ∈ front, item.Fits scope)
    (fits' : ∀ item ∈ front', item.Fits scope) (begins : name.head? ≠ some hyphen)
    (begins' : name'.head? ≠ some hyphen)
    (h : wordsOf front ++ name :: rest = wordsOf front' ++ name' :: rest') :
    front = front' ∧ name = name' ∧ rest = rest' := by
  induction front generalizing front' with
  | nil =>
    cases front' with
    | nil => exact ⟨rfl, List.cons.inj h⟩
    | cons item more =>
      obtain ⟨word, tail, words, -, hyphened⟩ := Item.words_eq_cons (fits' item List.mem_cons_self)
      rw [wordsOf_cons, words] at h
      exact absurd ((List.cons.inj h).1 ▸ hyphened) begins
  | cons item more ih =>
    have fit := fits item List.mem_cons_self
    cases front' with
    | nil =>
      obtain ⟨word, tail, words, -, hyphened⟩ := Item.words_eq_cons fit
      rw [wordsOf_cons, words] at h
      exact absurd ((List.cons.inj h).1 ▸ hyphened) begins'
    | cons item' more' =>
      rw [wordsOf_cons, wordsOf_cons, List.append_assoc, List.append_assoc] at h
      obtain ⟨rfl, later⟩ := Item.words_append_inj fit (fits' item' List.mem_cons_self) h
      obtain ⟨rfl, rest⟩ := ih (fun other mem => fits other (List.mem_cons_of_mem _ mem))
        (fun other mem => fits' other (List.mem_cons_of_mem _ mem)) later
      exact ⟨rfl, rest⟩

/-- No words spell two command lines. -/
theorem Line.Spelt.unique {line line' : Line} {words : List Bytes} (h : line.Spelt words)
    (h' : line'.Spelt words) : line = line' := by
  obtain ⟨outer, scope, inner, plain⟩ := line
  obtain ⟨outer', scope', inner', plain'⟩ := line'
  obtain ⟨fits, named, spelt⟩ := h
  generalize same : wordsOf _ ++ _ = words at h'
  obtain ⟨fits', named', spelt'⟩ := h'
  obtain ⟨rfl, rfl, rfl⟩ := wordsOf_append_inj fits fits' (head?_of_actionNames named)
    (head?_of_actionNames named') same
  have scopes : scope = scope' := by
    simp only [actionNames, List.mem_cons, Prod.mk.injEq, List.not_mem_nil, or_false] at named named'
    rcases named with ⟨rfl, rfl⟩ | ⟨rfl, rfl⟩ | ⟨rfl, rfl⟩ <;>
      rcases named' with ⟨eq, rfl⟩ | ⟨eq, rfl⟩ | ⟨eq, rfl⟩ <;> first | rfl | exact absurd eq (by decide)
  subst scopes
  obtain ⟨rfl, rfl⟩ := spelt.unique spelt'
  rfl

end Offscreen.CommandLine
