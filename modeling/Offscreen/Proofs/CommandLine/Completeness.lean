import Offscreen.Proofs.CommandLine.Precedence

/-!
# Command lines that are always read

A command line that names an action, and gives the tool and the action what they can be given, is read
as just that (`Request.read_ordinary`): every value byte for byte, whatever it looks like when it is
joined to its option, and the words behind two hyphens likewise.
-/

namespace Offscreen.CommandLine
set_option autoImplicit false

/-- The options of a scope: two that stand everywhere, and those of one action. -/
inductive Scope.Takes : Scope → Key → Prop where
  | wrenchBin (scope : Scope) : Takes scope .wrenchBin
  | cargo (scope : Scope) : Takes scope .cargo
  | features : Takes .run .features
  | screenshot : Takes .reftest .screenshot
  | platform : Takes .env .platform

/-- The flags of a scope that are part of a request, as help and the version are not. -/
inductive Scope.Raises : Scope → Flag → Prop where
  | verbose (scope : Scope) : Raises scope .verbose
  | skipBuild : Raises .run .skipBuild

/-- Whether an item can be written in a scope: it is known there, its value is accepted, and a value in a
word of its own does not begin with a hyphen. The only letter is the `v` of `verbose`. -/
def Item.Ordinary (scope : Scope) : Item → Prop
  | joined key value => scope.Takes key ∧ key.Accepts value
  | apart key value => scope.Takes key ∧ key.Accepts value ∧ value.head? ≠ some hyphen
  | named flag => scope.Raises flag
  | lettered flag letter => flag = .verbose ∧ letter = 0x76

/-- The features that some items ask for: what stands between the commas of their values, or `headless` if there
is no value. -/
def featuresIn (items : List Item) : List Bytes :=
  match valuesIn .features items with
  | [] => [Bytes.ascii "headless"]
  | values => values.flatMap (·.splitOn comma)

/-- What follows the items of an action. -/
inductive Tail where
  /-- Nothing, or two hyphens and the words that are handed on. -/
  | run (args : Option (List Bytes))
  /-- Two hyphens and the file to render. -/
  | reftest (path : Bytes)
  /-- Nothing. -/
  | env
  deriving DecidableEq, Repr

namespace Tail

/-- The scope that a tail ends. -/
def scope : Tail → Scope
  | run _ => .run
  | reftest _ => .reftest
  | env => .env

/-- The word that names the action. -/
def name : Tail → Bytes
  | run _ => Bytes.ascii "run"
  | reftest _ => Bytes.ascii "reftest"
  | env => Bytes.ascii "env"

/-- The plain words of a tail. -/
def plain : Tail → List Bytes
  | run args => args.getD []
  | reftest path => [path]
  | env => []

/-- The words that a tail is written in. -/
def words : Tail → List Bytes
  | run none | env => []
  | run (some args) => twoHyphens :: args
  | reftest path => [twoHyphens, path]

/-- The action that a tail asks for with some items in front of it. -/
inductive Asks (items : List Item) : Tail → Action → Prop where
  | run (args : Option (List Bytes)) :
    Asks items (.run args) (.run (.skipBuild ∈ flagsIn items) (featuresIn items) (args.getD []))
  | reftest (path : Bytes) : Asks items (.reftest path) (.reftest path (valuesIn .screenshot items).head?)
  /-- No platform is named. -/
  | here (unnamed : valuesIn .platform items = []) : Asks items .env (.env none)
  /-- A platform is named. -/
  | there {name : Bytes} {platform : Platform} (single : valuesIn .platform items = [name])
    (called : Platform.Called name platform) : Asks items .env (.env (some platform))

variable {tail : Tail} {items : List Item}

theorem name_mem (tail : Tail) : (tail.name, tail.scope) ∈ actionNames := by
  cases tail <;> simp [name, scope, actionNames]

theorem holds_plain (tail : Tail) : tail.scope.Holds tail.plain.length := by
  cases tail with
  | run args => trivial
  | reftest path => exact Nat.le_refl 1
  | env => rfl

theorem spells (tail : Tail) : Spells tail.scope [] tail.plain tail.words := by
  cases tail with
  | run args =>
    cases args with
    | none => exact .nothing
    | some args => exact .literal args
  | reftest path => exact .literal [path]
  | env => exact .nothing

/-- What a tail asks for is what is read from it and from the items. -/
theorem Asks.action_named {action : Action} (asks : tail.Asks items action) :
    Named.action ⟨tail.scope, .of items tail.plain⟩ = some action := by
  cases asks with
  | run args | reftest path => rfl
  | here unnamed =>
    have platform : (Given.of items []).platform = none := by
      rw [Given.platform, Given.value?, Given.valuesOf_of, unnamed]
      rfl
    exact congrArg (fun platform => some (Action.env platform)) platform
  | @there name platform single called =>
    have named : (Given.of items []).platform = some platform := by
      rw [Given.platform, Given.value?, Given.valuesOf_of, single]
      exact Platform.ofName?_eq_some_iff.2 called
    exact congrArg (fun platform => some (Action.env platform)) named

/-- Every tail asks for something, behind items that can be given. -/
theorem exists_asks (proper : (Given.of items tail.plain).Proper tail.scope) : ∃ action, tail.Asks items action := by
  cases tail with
  | run args => exact ⟨_, .run args⟩
  | reftest path => exact ⟨_, .reftest path⟩
  | env =>
    have single := proper.once .platform rfl
    rw [Given.valuesOf_of] at single
    cases given : valuesIn .platform items with
    | nil => exact ⟨_, .here given⟩
    | cons name rest =>
      have alone : rest = [] := by
        rw [given, List.length_cons] at single
        exact List.length_eq_zero_iff.1 (Nat.le_zero.1 (Nat.le_of_succ_le_succ single))
      obtain ⟨platform, called⟩ : Key.platform.Accepts name := by
        apply proper.accepts
        rw [Given.valuesOf_of, given]
        exact List.mem_cons_self
      exact ⟨_, .there (alone ▸ given) called⟩

end Tail

variable {scope : Scope}

theorem Scope.Takes.mem_keys {key : Key} (h : scope.Takes key) : key ∈ scope.keys := by
  cases h with
  | wrenchBin | cargo => cases scope <;> decide
  | features | screenshot | platform => decide

theorem Scope.Raises.mem_flags {flag : Flag} (h : scope.Raises flag) : flag ∈ scope.flags := by
  cases h with
  | verbose => cases scope <;> decide
  | skipBuild => decide

theorem Scope.Raises.kept {flag : Flag} (h : scope.Raises flag) : flag ≠ .help ∧ flag ≠ .version := by
  cases h <;> decide

namespace Item
variable {item : Item}

theorem Ordinary.fits (h : item.Ordinary scope) : item.Fits scope := by
  cases item with
  | joined key value => exact h.1.mem_keys
  | apart key value => exact ⟨h.1.mem_keys, Scope.free_of_plain (Shape.of_plain h.2.2)⟩
  | named flag => exact h.mem_flags
  | lettered flag letter =>
    obtain ⟨rfl, rfl⟩ := h
    exact ⟨(Scope.Raises.verbose scope).mem_flags, rfl⟩

theorem Ordinary.accepts {entry : Key × Bytes} (h : item.Ordinary scope) (is : item.entry? = some entry) :
    entry.1.Accepts entry.2 := by
  cases item with
  | joined key value =>
    cases is
    exact h.2
  | apart key value =>
    cases is
    exact h.2.1
  | named flag => cases is
  | lettered flag letter => cases is

theorem Ordinary.kept {flag : Flag} (h : item.Ordinary scope) (is : item.flag? = some flag) :
    flag ≠ .help ∧ flag ≠ .version := by
  cases item with
  | joined key value => cases is
  | apart key value => cases is
  | named flag =>
    cases is
    exact Scope.Raises.kept h
  | lettered flag letter =>
    cases is
    obtain ⟨rfl, -⟩ := h
    exact (Scope.Raises.verbose scope).kept

end Item

/-- Ordinary items that are not repeated, and text as far as there are places for it, can be given. -/
theorem Given.proper_of_ordinary {scope : Scope} {items : List Item} {words : List Bytes}
    (ordinary : ∀ item ∈ items, item.Ordinary scope) (single : SingleIn items)
    (text : ∀ word ∈ words, Utf8.isText word = true) (room : scope.Holds words.length) :
    (Given.of items words).Proper scope where
  accepted entry mem := by
    obtain ⟨item, mem, is⟩ := List.mem_filterMap.1 mem
    exact (ordinary item mem).accepts is
  once key once := by
    rw [Given.valuesOf_of]
    exact single.1 key (Key.repeats_eq_false_iff.1 once)
  raised := single.2
  kept flag mem := by
    obtain ⟨item, mem, is⟩ := List.mem_filterMap.1 mem
    exact (ordinary item mem).kept is
  text := text
  room := room

/-- **Completeness.** A command line that names an action and gives both scopes ordinary items, none of them twice
that may be given once, is read, and asks for just what its items and its tail say. -/
theorem Request.read_ordinary (environment : Variables) (outer inner : List Item) (tail : Tail)
    (ordinary : ∀ item ∈ outer, item.Ordinary .tool)
    (ordinary' : ∀ item ∈ inner, item.Ordinary tail.scope)
    (single : SingleIn outer) (single' : SingleIn inner)
    (text : ∀ word ∈ tail.plain, Utf8.isText word = true)
    (wrenchBin : ∀ value, environment.get? (Bytes.ascii "WRENCH_BIN") = some value → value ≠ [])
    (cargo : ∀ value, environment.get? (Bytes.ascii "CARGO") = some value → Utf8.isText value = true) :
    ∃ action, (∀ other, tail.Asks inner other ↔ other = action) ∧
      Request.read environment (wordsOf outer ++ tail.name :: (wordsOf inner ++ tail.words)) = .ok
        { wrenchBin := ((valuesIn .wrenchBin inner).head?.or ((valuesIn .wrenchBin outer).head?.or
            (environment.get? (Bytes.ascii "WRENCH_BIN")))).getD (Bytes.ascii "../target/release/wrench")
          cargo := ((valuesIn .cargo inner).head?.or ((valuesIn .cargo outer).head?.or
            (environment.get? (Bytes.ascii "CARGO")))).getD (Bytes.ascii "cargo")
          verbose := .verbose ∈ flagsIn outer || .verbose ∈ flagsIn inner
          action := action } := by
  have spelt : Line.Spelt ⟨outer, tail.scope, inner, tail.plain⟩
      (wordsOf outer ++ tail.name :: (wordsOf inner ++ tail.words)) := by
    have inside := tail.spells.append fun item mem => (ordinary' item mem).fits
    rw [List.append_nil] at inside
    exact .intro (fun item mem => (ordinary item mem).fits) tail.name_mem inside
  have allowed : ∀ fallback ∈ fallbacks, ∀ given, fallback.Allows environment given := by
    intro fallback mem given _
    rcases List.mem_cons.1 mem with rfl | mem
    · exact wrenchBin
    · rw [List.mem_singleton.1 mem]
      exact cargo
  have within := Given.proper_of_ordinary ordinary' single' text tail.holds_plain
  have proper : Line.Proper environment ⟨outer, tail.scope, inner, tail.plain⟩ :=
    ⟨Given.proper_of_ordinary ordinary single nofun rfl, within,
      fun fallback mem => ⟨allowed fallback mem _, allowed fallback mem _⟩⟩
  obtain ⟨action, asks⟩ := Tail.exists_asks within
  refine ⟨action, fun other => ⟨fun also => ?_, ?_⟩, read_eq_ok_iff.2 ⟨_, spelt, proper, ?_⟩⟩
  · exact Option.some.inj (also.action_named.symm.trans asks.action_named)
  · rintro rfl
    exact asks
  · rw [Line.request?, Line.innerGiven, asks.action_named]
    rfl

/-- The value of `--cargo` and that of `--screenshot` name no action, no word behind two hyphens is an option, and the
name of a platform may have capitals. -/
theorem Request.read_ordinary_clashing :
    let environment : Variables := ByteMap.empty.insert (Bytes.ascii "CARGO") (Bytes.ascii "ninja")
    Request.read .empty (["--cargo", "run", "-v", "run", "--features=a,b", "--skip-build", "--features=",
        "--", "--help", "--"].map Bytes.ascii) =
      .ok ⟨Bytes.ascii "../target/release/wrench", Bytes.ascii "run", true,
        .run true (["a", "b", ""].map Bytes.ascii) (["--help", "--"].map Bytes.ascii)⟩ ∧
    Request.read .empty (["--wrench-bin=--", "reftest", "--screenshot", "env", "--verbose", "--", "-h"].map
        Bytes.ascii) =
      .ok ⟨Bytes.ascii "--", Bytes.ascii "cargo", true, .reftest (Bytes.ascii "-h") (some (Bytes.ascii "env"))⟩ ∧
    Request.read environment (["env", "--platform", "DarWin", "--wrench-bin=w"].map Bytes.ascii) =
      .ok ⟨Bytes.ascii "w", Bytes.ascii "ninja", false, .env (some .macos)⟩ := by
  intro environment
  refine ⟨?_, ?_, ?_⟩
  · have ordinary : ∀ item ∈ [Item.apart .cargo (Bytes.ascii "run"), .lettered .verbose 0x76],
        item.Ordinary .tool :=
      List.forall_mem_cons.2 ⟨⟨.cargo _, rfl, by decide⟩, List.forall_mem_singleton.2 ⟨rfl, rfl⟩⟩
    have ordinary' : ∀ item ∈ [Item.joined .features (Bytes.ascii "a,b"), .named .skipBuild,
        .joined .features []], item.Ordinary .run :=
      List.forall_mem_cons.2 ⟨⟨.features, rfl⟩, List.forall_mem_cons.2 ⟨.skipBuild,
        List.forall_mem_singleton.2 ⟨.features, rfl⟩⟩⟩
    obtain ⟨action, only, read⟩ := Request.read_ordinary .empty _ _
      (.run (some (["--help", "--"].map Bytes.ascii))) ordinary ordinary'
      ⟨by intro key; cases key <;> decide, by decide⟩ ⟨by intro key; cases key <;> decide, by decide⟩
      (by decide) nofun nofun
    obtain rfl := (only (.run true (["a", "b", ""].map Bytes.ascii) (["--help", "--"].map Bytes.ascii))).1 (.run _)
    exact read
  · have ordinary : ∀ item ∈ [Item.joined .wrenchBin (Bytes.ascii "--")], item.Ordinary .tool :=
      List.forall_mem_singleton.2 ⟨.wrenchBin _, List.cons_ne_nil _ _⟩
    have ordinary' : ∀ item ∈ [Item.apart .screenshot (Bytes.ascii "env"), .named .verbose], item.Ordinary .reftest :=
      List.forall_mem_cons.2 ⟨⟨.screenshot, List.cons_ne_nil _ _, by decide⟩, List.forall_mem_singleton.2 (.verbose _)⟩
    obtain ⟨action, only, read⟩ := Request.read_ordinary .empty _ _ (.reftest (Bytes.ascii "-h")) ordinary ordinary'
      ⟨by intro key; cases key <;> decide, by decide⟩ ⟨by intro key; cases key <;> decide, by decide⟩
      (by decide) nofun nofun
    obtain rfl := (only (.reftest (Bytes.ascii "-h") (some (Bytes.ascii "env")))).1 (.reftest _)
    exact read
  · have called : Platform.Called (Bytes.ascii "DarWin") .macos := .darwin (by decide)
    have ordinary : ∀ item ∈ [Item.apart .platform (Bytes.ascii "DarWin"), .joined .wrenchBin (Bytes.ascii "w")],
        item.Ordinary .env :=
      List.forall_mem_cons.2 ⟨⟨.platform, ⟨_, called⟩, by decide⟩,
        List.forall_mem_singleton.2 ⟨.wrenchBin _, List.cons_ne_nil _ _⟩⟩
    have cargo : ∀ value, environment.get? (Bytes.ascii "CARGO") = some value → Utf8.isText value = true := by
      rintro value ⟨⟩
      rfl
    obtain ⟨action, only, read⟩ := Request.read_ordinary environment [] _ .env nofun ordinary
      ⟨by intro key; cases key <;> decide, by decide⟩ ⟨by intro key; cases key <;> decide, by decide⟩
      nofun nofun cargo
    obtain rfl := (only (.env (some .macos))).1 (.there rfl called)
    exact read

end Offscreen.CommandLine
