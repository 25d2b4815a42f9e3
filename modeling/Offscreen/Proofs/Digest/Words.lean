import Offscreen.Digest.Md5
import Offscreen.Proofs.Digest.Standard

/-!
# Bytes, words and digits, bit by bit

The words of a block spell the bits of its bytes (`Whole.flatMap_wordsOf`), a number written low byte first spells its
bits in the order of a message (`contentBits_littleEndian`), and hexadecimal digits spell the bytes that they are made
from (`textBits_hex`). Words and digits are read off their bits in one way (`flatMap_bits_inj`).
-/

namespace Offscreen.Md5
set_option autoImplicit false
open Standard

theorem contentBits_append (a b : Bytes) : contentBits (a ++ b) = contentBits a ++ contentBits b :=
  List.flatMap_append

theorem length_contentBits (content : Bytes) : (contentBits content).length = 8 * content.length := by
  simp [contentBits, List.length_flatMap, byteBits, Nat.mul_comm]

/-! ## Words -/

theorem place_lt {i : Nat} (lt : i < 32) : place i < 32 := by
  unfold place
  omega

theorem place_place (i : Nat) : place (place i) = i := by
  unfold place
  omega

theorem length_wordBits (word : Word) : (wordBits word).length = 32 := by
  simp [wordBits]

theorem wordBits_inj {v w : Word} : wordBits v = wordBits w ↔ v = w := by
  refine ⟨fun same => ?_, congrArg wordBits⟩
  apply BitVec.eq_of_getLsbD_eq
  intro i lt
  have all := List.map_inj_left.1 same
  have here := all (place i) (List.mem_range.2 (place_lt lt))
  rwa [place_place] at here

/-- What is spelt with as many bits for each part is read in one way. -/
theorem flatMap_bits_inj {α : Type} {spell : α → Bits} {size : Nat} (pos : 0 < size)
    (length : ∀ a, (spell a).length = size) {parts others : List α}
    (inj : ∀ a ∈ parts, ∀ b ∈ others, spell a = spell b → a = b)
    (same : parts.flatMap spell = others.flatMap spell) : parts = others := by
  have apart : ∀ (a : α) (rest : Bits), spell a ++ rest ≠ [] := by
    intro a rest none
    have count := congrArg List.length none
    rw [List.length_append, length, List.length_nil] at count
    omega
  induction parts generalizing others with
  | nil =>
    cases others with
    | nil => rfl
    | cons b bs => exact absurd same.symm (apart b _)
  | cons a as ih =>
    cases others with
    | nil => exact absurd same (apart a _)
    | cons b bs =>
      obtain ⟨first, rest⟩ := List.append_inj same (by rw [length, length])
      have later : as = bs :=
        ih (fun x memX y memY => inj x (List.mem_cons_of_mem _ memX) y (List.mem_cons_of_mem _ memY)) rest
      rw [inj a List.mem_cons_self b List.mem_cons_self first, later]

theorem flatMap_wordBits_inj {words others : List Word} (same : words.flatMap wordBits = others.flatMap wordBits) :
    words = others :=
  flatMap_bits_inj (by decide) length_wordBits (fun _ _ _ _ => wordBits_inj.1) same

theorem length_littleEndian (count n : Nat) : (littleEndian count n).length = count := by
  induction count generalizing n with
  | zero => rfl
  | succ count ih => rw [littleEndian, List.length_cons, ih]

theorem byteBits_ofNat (n : Nat) :
    byteBits (UInt8.ofNat (n % 256)) = (List.range 8).map fun i => n.testBit (7 - i) := by
  apply List.map_congr_left
  intro i mem
  have lt := List.mem_range.1 mem
  rw [UInt8.toNat_ofNat', Nat.mod_mod, show 256 = 2 ^ 8 from rfl, Nat.testBit_mod_two_pow]
  simp
  omega

/-- The bytes of a number stand low one first, and so do the bytes of a word in a message. -/
theorem contentBits_littleEndian (count n : Nat) :
    contentBits (littleEndian count n) = (List.range (8 * count)).map fun i => n.testBit (place i) := by
  induction count generalizing n with
  | zero => rfl
  | succ count ih =>
    have step : contentBits (littleEndian (count + 1) n) =
        byteBits (UInt8.ofNat (n % 256)) ++ contentBits (littleEndian count (n / 256)) := rfl
    have low : (List.range 8).map (fun i => n.testBit (7 - i)) = (List.range 8).map fun i => n.testBit (place i) := by
      apply List.map_congr_left
      intro i mem
      have lt := List.mem_range.1 mem
      rw [show place i = 7 - i by unfold place; omega]
    have high : ∀ i, (n / 256).testBit (place i) = n.testBit (place (8 + i)) := by
      intro i
      rw [show 256 = 2 ^ 8 from rfl, Nat.testBit_div_two_pow, show place (8 + i) = place i + 8 by unfold place; omega]
    rw [step, byteBits_ofNat, low, ih, Nat.mul_succ, Nat.add_comm, List.range_add, List.map_append, List.map_map]
    simp only [high]
    rfl

theorem wordBits_ofNat (n : Nat) : wordBits (BitVec.ofNat 32 n) = (List.range 32).map fun i => n.testBit (place i) := by
  apply List.map_congr_left
  intro i mem
  rw [BitVec.getLsbD_ofNat]
  simp [place_lt (List.mem_range.1 mem)]

theorem wordBits_toBitVec (w : UInt32) : wordBits w.toBitVec = contentBits (littleEndian 4 w.toNat) := by
  rw [contentBits_littleEndian]
  rfl

/-- Each bit of a word is a bit of one of its four bytes. -/
theorem wordBits_of_bytes (p q r s : UInt8) :
    wordBits (p.toUInt32 ||| q.toUInt32 <<< 8 ||| r.toUInt32 <<< 16 ||| s.toUInt32 <<< 24).toBitVec =
      contentBits [p, q, r, s] := by
  simp [wordBits, contentBits, byteBits, List.range_succ, place, BitVec.getElem_eq_testBit_toNat]

/-! ## Blocks -/

/-- The words of a block, as a message has them. -/
def wordsOf (block : Bytes) : List Word :=
  (words block).map UInt32.toBitVec

theorem wordsOf_cons (p q r s : UInt8) (rest : Bytes) :
    wordsOf (p :: q :: r :: s :: rest) =
      (p.toUInt32 ||| q.toUInt32 <<< 8 ||| r.toUInt32 <<< 16 ||| s.toUInt32 <<< 24).toBitVec :: wordsOf rest := by
  rw [wordsOf, words, List.map_cons, wordsOf]

/-- Bytes that make up whole words. -/
inductive Whole : Bytes → Prop where
  | nil : Whole []
  | four (p q r s : UInt8) {rest : Bytes} (whole : Whole rest) : Whole (p :: q :: r :: s :: rest)

theorem whole_of_length (block : Bytes) (length : block.length % 4 = 0) : Whole block := by
  match block with
  | [] => exact .nil
  | p :: q :: r :: s :: rest =>
    have shorter : rest.length % 4 = 0 := by
      simp only [List.length_cons] at length
      omega
    exact .four p q r s (whole_of_length rest shorter)
  | [_] | [_, _] | [_, _, _] => simp at length

/-- The bits of a content are those of its words. -/
theorem Whole.flatMap_wordsOf {block : Bytes} (whole : Whole block) :
    (wordsOf block).flatMap wordBits = contentBits block := by
  induction whole with
  | nil => rfl
  | four p q r s _ ih =>
    rw [wordsOf_cons, List.flatMap_cons, wordBits_of_bytes, ih]
    exact (contentBits_append [p, q, r, s] _).symm

theorem Whole.length_wordsOf {block : Bytes} (whole : Whole block) : 4 * (wordsOf block).length = block.length := by
  induction whole with
  | nil => rfl
  | four p q r s _ ih =>
    rw [wordsOf_cons, List.length_cons, Nat.mul_succ, ih]
    rfl

theorem Whole.wordsOf_append {block : Bytes} (whole : Whole block) (rest : Bytes) :
    wordsOf (block ++ rest) = wordsOf block ++ wordsOf rest := by
  induction whole with
  | nil => rfl
  | four p q r s _ ih =>
    simp only [List.cons_append]
    rw [wordsOf_cons, wordsOf_cons, ih]
    rfl

/-! ## Digits -/

theorem mem_digits_iff {c : Char} : c ∈ digits ↔ ∃ n < 16, digit n = c := by
  have all : digits = (List.range 16).map digit := by decide
  rw [all, List.mem_map]
  simp only [List.mem_range]

theorem digitBits_digit : ∀ n < 16, digitBits (digit n) = (List.range 4).map fun i => n.testBit (3 - i) := by
  decide

theorem digitBits_inj {c d : Char} (memC : c ∈ digits) (memD : d ∈ digits) (same : digitBits c = digitBits d) :
    c = d := by
  obtain ⟨m, ltM, rfl⟩ := mem_digits_iff.1 memC
  obtain ⟨n, ltN, rfl⟩ := mem_digits_iff.1 memD
  have values : ∀ m < 16, ∀ n < 16, digitBits (digit m) = digitBits (digit n) → m = n := by decide
  rw [values m ltM n ltN same]

theorem textBits_inj {text other : List Char} (one : ∀ c ∈ text, c ∈ digits) (two : ∀ c ∈ other, c ∈ digits)
    (same : textBits text = textBits other) : text = other := by
  have length : ∀ c, (digitBits c).length = 4 := by simp [digitBits]
  exact flatMap_bits_inj (by decide) length (fun c memC d memD => digitBits_inj (one c memC) (two d memD)) same

theorem mem_digits_of_hex {bytes : Bytes} {c : Char} (mem : c ∈ hex bytes) : c ∈ digits := by
  obtain ⟨b, -, two⟩ := List.mem_flatMap.1 mem
  have lt := b.toNat_lt
  rcases List.mem_pair.1 two with rfl | rfl
  · exact mem_digits_iff.2 ⟨_, by omega, rfl⟩
  · exact mem_digits_iff.2 ⟨_, by omega, rfl⟩

theorem length_hex (bytes : Bytes) : (hex bytes).length = 2 * bytes.length := by
  simp [hex, List.length_flatMap, Nat.mul_comm]

/-- Two digits spell a byte. -/
theorem textBits_hex (bytes : Bytes) : textBits (hex bytes) = contentBits bytes := by
  induction bytes with
  | nil => rfl
  | cons b rest ih =>
    have lt := b.toNat_lt
    have two : textBits (hex (b :: rest)) =
        digitBits (digit (b.toNat / 16)) ++ digitBits (digit (b.toNat % 16)) ++ textBits (hex rest) := rfl
    have high : ∀ i, (b.toNat / 16).testBit i = b.toNat.testBit (i + 4) := by
      intro i
      rw [show 16 = 2 ^ 4 from rfl, Nat.testBit_div_two_pow]
    have low : ∀ i, (b.toNat % 16).testBit i = (decide (i < 4) && b.toNat.testBit i) :=
      Nat.testBit_mod_two_pow b.toNat 4
    rw [two, ih, digitBits_digit _ (by omega), digitBits_digit _ (by omega)]
    simp only [high, low]
    rfl

end Offscreen.Md5
