import Offscreen.Platform
import Offscreen.Proofs.Utf8
import Mathlib.Data.List.Forall2

/-!
# The names of platforms

A platform has names in small letters, and any letter may be written as a capital (`Platform.Called`). These and no
others are read (`Platform.ofName?_eq_some_iff`).
-/

namespace Offscreen
set_option autoImplicit false

/-- Bytes that spell a word of small letters, each of them small or capital. -/
def Bytes.AnyCase (word : String) (bytes : Bytes) : Prop :=
  List.Forall₂ (fun letter b => b.toNat = letter.toNat ∨ b.toNat = letter.toUpper.toNat) word.toList bytes

instance (word : String) (bytes : Bytes) : Decidable (bytes.AnyCase word) :=
  inferInstanceAs (Decidable (List.Forall₂ _ _ _))

/-- The platform that a name stands for. -/
inductive Platform.Called (name : Bytes) : Platform → Prop where
  | windows (spelt : name.AnyCase "windows") : Called name .windows
  | macos (spelt : name.AnyCase "macos") : Called name .macos
  | darwin (spelt : name.AnyCase "darwin") : Called name .macos
  | linux (spelt : name.AnyCase "linux") : Called name .linux
  | other (spelt : name.AnyCase "other") : Called name .other

/-! ## Small letters and capitals -/

/-- A small letter of ASCII. -/
def SmallLetter (letter : Char) : Prop := 97 ≤ letter.toNat ∧ letter.toNat ≤ 122

theorem SmallLetter.toNat_toUpper {letter : Char} (small : SmallLetter letter) :
    letter.toUpper.toNat + 32 = letter.toNat := by
  have low : 97 ≤ letter.val.toNat := small.1
  have high : letter.val.toNat ≤ 122 := small.2
  have within : 'a'.val ≤ letter.val ∧ letter.val ≤ 'z'.val := small
  have apart : ('A'.val - 'a'.val).toNat = 2 ^ 32 - 32 := rfl
  have shifted : (letter.val + ('A'.val - 'a'.val)).toNat + 32 = letter.val.toNat := by
    rw [UInt32.toNat_add]
    omega
  have raised : letter.toUpper = ⟨letter.val + ('A'.val - 'a'.val), _⟩ := dif_pos within
  rw [raised]
  exact shifted

namespace Bytes

theorem lowerByte_eq_iff {letter : Char} (small : SmallLetter letter) (b : UInt8) :
    lowerByte b = UInt8.ofNat letter.toNat ↔ b.toNat = letter.toNat ∨ b.toNat = letter.toUpper.toNat := by
  have upper := small.toNat_toUpper
  obtain ⟨low, high⟩ := small
  have value : (UInt8.ofNat letter.toNat).toNat = letter.toNat :=
    UInt8.toNat_ofNat_of_lt' (Nat.lt_of_le_of_lt high (by decide))
  rw [← UInt8.toNat_inj, value, lowerByte]
  simp only [UInt8.le_iff_toNat_le, UInt8.reduceToNat]
  split
  · have lowered : (b + 0x20).toNat = (b.toNat + 32) % 256 := UInt8.toNat_add b 0x20
    omega
  · omega

theorem lower_eq_ascii_iff {word : String} (small : ∀ letter ∈ word.toList, SmallLetter letter) {bytes : Bytes} :
    bytes.lower = ascii word ↔ bytes.AnyCase word := by
  unfold lower ascii AnyCase
  generalize word.toList = letters at small
  induction letters generalizing bytes with
  | nil => simp
  | cons letter rest ih =>
    cases bytes with
    | nil => simp
    | cons b bytes =>
      have first := lowerByte_eq_iff (small letter List.mem_cons_self) b
      have later := @ih bytes fun other mem => small other (List.mem_cons_of_mem _ mem)
      simp only [List.map_cons, List.cons.injEq, List.forall₂_cons, first, later]

theorem AnyCase.lt {word : String} {bytes : Bytes} (spelt : bytes.AnyCase word)
    (small : ∀ letter ∈ word.toList, SmallLetter letter) {b : UInt8} (mem : b ∈ bytes) : b < 0x80 := by
  have lowered : lowerByte b ∈ ascii word := (lower_eq_ascii_iff small).2 spelt ▸ List.mem_map_of_mem mem
  obtain ⟨letter, within, same⟩ := List.mem_map.1 lowered
  have cases := (lowerByte_eq_iff (small letter within) b).1 same.symm
  have upper := (small letter within).toNat_toUpper
  have high := (small letter within).2
  exact UInt8.lt_iff_toNat_lt.2 (by simp only [UInt8.reduceToNat]; omega)

end Bytes

namespace Platform
variable {name : Bytes} {platform : Platform}

theorem smallLetter_of_mem_names {entry : String × Platform} (mem : entry ∈ names) :
    ∀ letter ∈ entry.1.toList, SmallLetter letter := by
  have checked : (names.all fun entry => entry.1.toList.all fun letter =>
    97 ≤ letter.toNat && letter.toNat ≤ 122) = true := rfl
  intro letter within
  have small := List.all_eq_true.1 (List.all_eq_true.1 checked entry mem) letter within
  rwa [Bool.and_eq_true, decide_eq_true_eq, decide_eq_true_eq] at small

/-- Each name is found. -/
theorem find?_names : ∀ entry ∈ names,
    (names.find? fun other => Bytes.ascii other.1 == Bytes.ascii entry.1) = some entry := by
  decide

theorem ofName?_of_mem_names {word : String} (mem : (word, platform) ∈ names) (spelt : name.AnyCase word) :
    ofName? name = some platform := by
  have small := (Bytes.lower_eq_ascii_iff (smallLetter_of_mem_names mem)).2 spelt
  rw [ofName?, small, find?_names _ mem]
  rfl

theorem exists_mem_names (named : ofName? name = some platform) :
    ∃ word, (word, platform) ∈ names ∧ name.AnyCase word := by
  obtain ⟨⟨word, _⟩, found, rfl⟩ := Option.map_eq_some_iff.1 named
  have mem := List.mem_of_find?_eq_some found
  have same : Bytes.ascii word = name.lower := by simpa using List.find?_some found
  exact ⟨word, mem, (Bytes.lower_eq_ascii_iff (smallLetter_of_mem_names mem)).1 same.symm⟩

/-- A platform is read from the names that stand for it. -/
theorem ofName?_eq_some_iff : ofName? name = some platform ↔ Called name platform := by
  constructor
  · intro named
    obtain ⟨word, mem, spelt⟩ := exists_mem_names named
    simp only [names, List.mem_cons, Prod.mk.injEq, List.not_mem_nil, or_false] at mem
    rcases mem with ⟨rfl, rfl⟩ | ⟨rfl, rfl⟩ | ⟨rfl, rfl⟩ | ⟨rfl, rfl⟩ | ⟨rfl, rfl⟩
    · exact .windows spelt
    · exact .macos spelt
    · exact .darwin spelt
    · exact .linux spelt
    · exact .other spelt
  · intro called
    cases called with
    | windows spelt | macos spelt | darwin spelt | linux spelt | other spelt =>
      exact ofName?_of_mem_names (by simp [names]) spelt

/-- The name of a platform is text. -/
theorem Called.isText (called : Called name platform) : Utf8.isText name = true := by
  obtain ⟨word, mem, spelt⟩ := exists_mem_names (ofName?_eq_some_iff.2 called)
  exact Utf8.isText_of_ascii fun b => spelt.lt (smallLetter_of_mem_names mem)

end Platform
end Offscreen
