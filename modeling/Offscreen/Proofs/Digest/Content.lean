import Offscreen.Proofs.Digest.Rounds
import Offscreen.Proofs.Reftest

/-!
# The digest of a file

The bytes behind a content fill its bits up as the algorithm says (`padded_wordsOf`), and there is one way to do so.
So the digest of a content is what the algorithm gives for its bits (`isDigest_iff`), and the digits that are told of
a file spell it, in whatever stretches the file is read (`digestOf_readable`).
-/

namespace Offscreen.Md5
set_option autoImplicit false
open Standard

/-! ## The padded message -/

/-- A message is filled up in one way: how many bits are clear is fixed by how many are missing. -/
theorem Padded.unique {message : Bits} {words others : List Word} (h : Padded message words)
    (h' : Padded message others) : words = others := by
  cases h with
  | filled front zeros spelt room few =>
    cases h' with
    | filled front' zeros' spelt' room' few' =>
      have same : zeros = zeros' := by omega
      rw [flatMap_wordBits_inj (spelt.trans (same ▸ spelt'.symm))]

/-- What stands behind a content before its length. -/
def filling (length : Nat) : Bytes :=
  0x80 :: List.replicate ((119 - length % 64) % 64) 0

theorem padding_eq (length : Nat) : padding length = filling length ++ littleEndian 8 (8 * length) :=
  rfl

theorem contentBits_filling (length : Nat) :
    contentBits (filling length) = true :: List.replicate (7 + 8 * ((119 - length % 64) % 64)) false := by
  have zeros : ∀ n, contentBits (List.replicate n 0) = List.replicate (8 * n) false := by
    intro n
    induction n with
    | zero => rfl
    | succ n ih =>
      have first : contentBits (List.replicate (n + 1) 0) =
          List.replicate 8 false ++ contentBits (List.replicate n 0) := rfl
      rw [first, ih, List.replicate_append_replicate, Nat.mul_succ, Nat.add_comm]
  have mark : contentBits (filling length) =
      true :: List.replicate 7 false ++ contentBits (List.replicate ((119 - length % 64) % 64) 0) := rfl
  rw [mark, zeros, List.cons_append, List.replicate_append_replicate]

/-- Eight bytes, low one first, are two words, low one first. -/
theorem wordsOf_littleEndian (n : Nat) :
    wordsOf (littleEndian 8 n) = [BitVec.ofNat 32 n, BitVec.ofNat 32 (n / 2 ^ 32)] := by
  have high : ∀ i, (n / 2 ^ 32).testBit (place i) = n.testBit (place (32 + i)) := by
    intro i
    rw [Nat.testBit_div_two_pow, show place (32 + i) = place i + 32 by unfold place; omega]
  have eight : (littleEndian 8 n).length % 4 = 0 := by
    rw [length_littleEndian]
  apply flatMap_wordBits_inj
  rw [(whole_of_length _ eight).flatMap_wordsOf, contentBits_littleEndian, show 8 * 8 = 32 + 32 from rfl,
    List.range_add, List.map_append, List.map_map, List.flatMap_cons, List.flatMap_singleton, wordBits_ofNat,
    wordBits_ofNat]
  simp only [high]
  rfl

/-- The bytes behind a content fill its bits up. -/
theorem padded_wordsOf (content : Bytes) :
    Padded (contentBits content) (wordsOf (content ++ padding content.length)) := by
  have count : (content ++ filling content.length).length = content.length + 1 + (119 - content.length % 64) % 64 := by
    simp [filling]
    omega
  have whole := whole_of_length (content ++ filling content.length) (by omega)
  have bits := length_contentBits content
  have spelt : (wordsOf (content ++ filling content.length)).flatMap wordBits =
      contentBits content ++ true :: List.replicate (7 + 8 * ((119 - content.length % 64) % 64)) false := by
    rw [whole.flatMap_wordsOf, contentBits_append, contentBits_filling]
  rw [padding_eq, ← List.append_assoc, whole.wordsOf_append, wordsOf_littleEndian, ← bits]
  exact .filled _ _ spelt (by omega) (by omega)

/-! ## The bits of the digest -/

theorem output_registers (state : State) : output state.registers = contentBits state.bytes := by
  have parts : contentBits state.bytes =
      contentBits (littleEndian 4 state.a.toNat) ++ (contentBits (littleEndian 4 state.b.toNat) ++
        (contentBits (littleEndian 4 state.c.toNat) ++ (contentBits (littleEndian 4 state.d.toNat) ++ []))) := by
    simp only [State.bytes, List.flatMap_cons, List.flatMap_nil, contentBits_append]
    rfl
  rw [parts, ← wordBits_toBitVec, ← wordBits_toBitVec, ← wordBits_toBitVec, ← wordBits_toBitVec]
  rfl

theorem length_padded (length : Nat) : (length + (padding length).length) % 64 = 0 := by
  simp [padding, length_littleEndian]
  omega

/-- The digest of a content is the one that the algorithm gives. -/
theorem isDigest_iff (content : Bytes) (bits : Bits) :
    IsDigest (contentBits content) bits ↔ bits = contentBits (digest content) := by
  have whole : (content ++ padding content.length).length % 64 = 0 := by
    rw [List.length_append]
    exact length_padded _
  have mixed := absorbAll_registers (content ++ padding content.length) whole State.initial
  have value : output (absorbAll (wordsOf (content ++ padding content.length)) initial) =
      contentBits (digest content) := by
    rw [digest, ← output_registers, ← mixed]
    rfl
  constructor
  · rintro ⟨words, padded, rfl⟩
    rw [Padded.unique padded (padded_wordsOf content), value]
  · rintro rfl
    exact ⟨_, padded_wordsOf content, value.symm⟩

theorem length_digest (content : Bytes) : (digest content).length = 16 := by
  simp [digest, State.bytes, length_littleEndian]

end Offscreen.Md5

namespace Offscreen.Tool
set_option autoImplicit false
open Md5 Md5.Standard

/-- What the digits of a content's digest are. -/
structure Digested (content : Bytes) (text : List Char) : Prop where
  length : text.length = 32
  digits : ∀ c ∈ text, c ∈ digits
  /-- The digits spell the digest, and no message has two. -/
  digest : ∀ bits, IsDigest (contentBits content) bits ↔ bits = textBits text

theorem digested (content : Bytes) : Digested content (hex (digest content)) where
  length := by rw [length_hex, length_digest]
  digits := fun _ => mem_digits_of_hex
  digest := by
    intro bits
    rw [textBits_hex]
    exact isDigest_iff content bits

theorem Digested.unique {content : Bytes} {text other : List Char} (h : Digested content text)
    (h' : Digested content other) : text = other :=
  textBits_inj h.digits h'.digits ((h'.digest _).1 ((h.digest _).2 rfl))

/-- **The digest of a file.** A file that can be read has a digest, whatever its content, its length and the
stretches in which it is read. That is the thirty-two digits that spell the MD5 digest of the whole content, since a
hasher that takes in one stretch after another comes to what mixing all blocks of the padded whole comes to. -/
theorem digestOf_readable (files : Files) (path : Bytes) (stretches : List Bytes)
    (readable : files.read path = .ok stretches) :
    (∃ text, digestOf files path = .ok text) ∧
    (∀ text, digestOf files path = .ok text ↔ Digested stretches.flatten text) ∧
    (stretches.foldl Hasher.update Hasher.initial).finish = (Hasher.initial.update stretches.flatten).finish ∧
    (Hasher.initial.update stretches.flatten).finish = digest stretches.flatten := by
  have answer := digestOf_of_ok readable
  have once := (Hasher.initial_holds.update stretches.flatten).finish_eq
  have piecewise := (Hasher.initial_holds.updates stretches).finish_eq
  refine ⟨⟨_, answer⟩, fun text => ?_, piecewise.trans once.symm, once⟩
  rw [answer]
  constructor
  · rintro ⟨rfl⟩
    exact digested _
  · intro h
    rw [h.unique (digested _)]

/-- A machine with one file, which is read in some stretches. -/
def oneFile (path : Bytes) (stretches : List Bytes) : Files where
  list _ := .error .notFound
  modified _ := .error .notFound
  read other := if other = path then .ok stretches else .error .notFound

/-- The content fills a block but for two bytes, so its length stands in a block of its own. -/
theorem digestOf_readable_of_sixty_two :
    let stretches := ["ABCDEFGHIJKLMNOPQRSTUVWXYZ", "", "abcdefghijklmnopqrstuvwxyz", "0123456789"].map Bytes.ascii
    let files := oneFile screenshotFile stretches
    files.read screenshotFile = .ok stretches ∧ stretches.flatten.length = 62 ∧
      Digested stretches.flatten "d174ab98d277d9f5a5611c2c9f419d9f".toList := by
  intro stretches files
  have readable : files.read screenshotFile = .ok stretches := rfl
  obtain ⟨-, answers, -⟩ := digestOf_readable files screenshotFile stretches readable
  have evaluated : hexOfStretches stretches = "d174ab98d277d9f5a5611c2c9f419d9f".toList := by
    decide +kernel
  have answer : digestOf files screenshotFile = .ok (hexOfStretches stretches) := rfl
  exact ⟨readable, by decide, (answers _).1 (answer.trans (congrArg _ evaluated))⟩

end Offscreen.Tool
