import Offscreen.Bytes
import Mathlib.Analysis.Complex.Trigonometric
import Mathlib.Data.Fin.VecNotation

/-!
# What an MD5 digest is

The algorithm as it is published, on bits, words and registers, apart from any way in which a program takes a
message in. A message is filled up to whole blocks of sixteen words (`Padded`), each block is mixed into four
registers in four rounds of sixteen operations (`absorb`), and the bits of the registers at the end are the digest
(`IsDigest`).
-/

namespace Offscreen.Md5.Standard
set_option autoImplicit false

/-! ## Bits and words -/

/-- A message bit by bit. -/
abbrev Bits := List Bool

/-- Thirty-two bits, which are added with wrap-around. -/
abbrev Word := BitVec 32

/-- The bits of a byte, the high one first. -/
def byteBits (byte : UInt8) : Bits :=
  (List.range 8).map fun i => byte.toNat.testBit (7 - i)

/-- The bits of a content. -/
def contentBits (content : Bytes) : Bits :=
  content.flatMap byteBits

/-- Which bit of a word comes at a place in a message: the low byte comes first, and of each byte the high bit. -/
def place (i : Nat) : Nat :=
  8 * (i / 8) + (7 - i % 8)

/-- The bits of a word in the order of a message. -/
def wordBits (word : Word) : Bits :=
  (List.range 32).map fun i => word.getLsbD (place i)

/-! ## Padding -/

/-- The words of a message that is filled up. Behind the message come one set bit and as few clear ones as it takes
to leave room for two words in the last block. These hold the number of bits of the message, low word first. -/
inductive Padded (message : Bits) : List Word → Prop where
  | filled (front : List Word) (zeros : Nat)
      (spelt : front.flatMap wordBits = message ++ true :: List.replicate zeros false)
      (room : (message.length + 1 + zeros) % 512 = 448) (few : zeros < 512) :
      Padded message (front ++ [BitVec.ofNat 32 message.length, BitVec.ofNat 32 (message.length / 2 ^ 32)])

/-! ## Mixing -/

/-- The four registers. -/
abbrev Registers := Fin 4 → Word

/-- What the registers hold before the first block. -/
def initial : Registers :=
  ![0x67452301, 0xefcdab89, 0x98badcfe, 0x10325476]

/-- The function of each round, bit by bit. The first one takes a bit of `y` or of `z` as `x` says, the second one
a bit of `x` or of `y` as `z` says. -/
def roundFunction : Fin 4 → Word → Word → Word → Word
  | 0, x, y, z => (x &&& y) ||| (~~~x &&& z)
  | 1, x, y, z => (x &&& z) ||| (y &&& ~~~z)
  | 2, x, y, z => x ^^^ y ^^^ z
  | 3, x, y, z => y ^^^ (x ||| ~~~z)

/-- The integer part of 2 ^ 32 times the sine of `i` radians, without its sign. -/
noncomputable def constant (i : Nat) : Word :=
  BitVec.ofNat 32 ⌊((2 ^ 32 : Nat) : ℝ) * |Real.sin i|⌋₊

/-- The round of operation `i`. There are four rounds of sixteen operations, counted from 0 on. -/
def roundOf (i : Nat) : Fin 4 :=
  Fin.ofNat 4 (i / 16)

/-- Which word of a block operation `i` takes: each round has its order. -/
def wordTaken (i : Nat) : Fin 16 :=
  ![![0, 1, 2, 3, 4, 5, 6, 7, 8, 9, 10, 11, 12, 13, 14, 15],
    ![1, 6, 11, 0, 5, 10, 15, 4, 9, 14, 3, 8, 13, 2, 7, 12],
    ![5, 8, 11, 14, 1, 4, 7, 10, 13, 0, 3, 6, 9, 12, 15, 2],
    ![0, 7, 14, 5, 12, 3, 10, 1, 8, 15, 6, 13, 4, 11, 2, 9]] (roundOf i) (Fin.ofNat 16 i)

/-- How far operation `i` rotates: each round has four amounts, which come in turn. -/
def rotateBy (i : Nat) : Nat :=
  ![![7, 12, 17, 22], ![5, 9, 14, 20], ![4, 11, 16, 23], ![6, 10, 15, 21]] (roundOf i) (Fin.ofNat 4 i)

/-- Which register operation `i` writes: the first one, then from the last one down. -/
def target (i : Nat) : Fin 4 :=
  ![0, 3, 2, 1] (Fin.ofNat 4 i)

/-- What operation `i` computes. It reads the register that it writes and the three behind that one, in a circle. -/
noncomputable def outcome (block : Fin 16 → Word) (i : Nat) (registers : Registers) : Word :=
  let a := registers (target i)
  let b := registers (target i + 1)
  let c := registers (target i + 2)
  let d := registers (target i + 3)
  b + (a + roundFunction (roundOf i) b c d + block (wordTaken i) + constant (i + 1)).rotateLeft (rotateBy i)

/-- An operation writes one register. -/
noncomputable def operate (block : Fin 16 → Word) (registers : Registers) (i : Nat) : Registers :=
  Function.update registers (target i) (outcome block i registers)

/-- Mixes a block in: what the operations leave is added to what the registers held before. -/
noncomputable def absorb (block : Fin 16 → Word) (registers : Registers) : Registers :=
  let mixed := (List.range 64).foldl (operate block) registers
  fun j => registers j + mixed j

/-- Mixes words in, one block of sixteen after the other. -/
noncomputable def absorbAll (words : List Word) (registers : Registers) : Registers :=
  (List.range (words.length / 16)).foldl (fun r i => absorb (fun k => words.getD (16 * i + k) 0) r) registers

/-! ## The digest -/

/-- The bits of the registers, in their order. -/
def output (registers : Registers) : Bits :=
  (List.finRange 4).flatMap fun j => wordBits (registers j)

/-- What the digest of a message is. -/
def IsDigest (message digest : Bits) : Prop :=
  ∃ words, Padded message words ∧ digest = output (absorbAll words initial)

/-! ## Digits -/

/-- The hexadecimal digits, each at the place of its value. -/
def digits : List Char := "0123456789abcdef".toList

/-- The four bits of a hexadecimal digit, the high one first. -/
def digitBits (digit : Char) : Bits :=
  (List.range 4).map fun i => (digits.idxOf digit).testBit (3 - i)

/-- The bits that hexadecimal digits stand for. -/
def textBits (text : List Char) : Bits :=
  text.flatMap digitBits

end Offscreen.Md5.Standard
