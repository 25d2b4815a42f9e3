import Offscreen.Proofs.Digest.Sines
import Offscreen.Proofs.Digest.Words
import Mathlib.Data.List.GetD

/-!
# Mixing blocks in

The steps keep the four words of a state in a row and move them on, while the operations of the algorithm leave the
registers where they are and write one after the other. Before each step the state holds the registers in a circle,
from the one that is written next (`Agrees`). A step keeps that so (`Agrees.step`), and after sixty-four steps the
circle is back at its start, so a block is mixed in as the algorithm says (`absorb_registers`), and all blocks are
(`absorbAll_registers`).
-/

namespace Offscreen.Md5
set_option autoImplicit false
open Standard

/-! ## One operation -/

theorem toBitVec_turn (x : UInt32) {amount : UInt32} (lt : amount.toNat < 32) (pos : 0 < amount.toNat) :
    (turn x amount).toBitVec = x.toBitVec.rotateLeft amount.toNat := by
  have left : (amount.toBitVec % 32).toNat = amount.toNat := by
    rw [BitVec.toNat_umod]
    exact Nat.mod_eq_of_lt lt
  have right : ((32 - amount).toBitVec % 32).toNat = 32 - amount.toNat := by
    rw [BitVec.toNat_umod]
    show (32 - amount).toNat % 32 = 32 - amount.toNat
    rw [UInt32.toNat_sub_of_le _ _ (UInt32.le_iff_toNat_le.2 (Nat.le_of_lt lt))]
    show (32 - amount.toNat) % 32 = 32 - amount.toNat
    omega
  rw [turn, UInt32.toBitVec_or, UInt32.toBitVec_shiftLeft, UInt32.toBitVec_shiftRight, BitVec.shiftLeft_eq',
    BitVec.ushiftRight_eq', left, right, BitVec.rotateLeft_def, Nat.mod_eq_of_lt lt]

theorem toBitVec_blend {i : Nat} (lt : i < 64) (b c d : UInt32) :
    (blend i b c d).toBitVec = roundFunction (roundOf i) b.toBitVec c.toBitVec d.toBitVec := by
  rw [roundOf, blend]
  have rounds : i / 16 = 0 ∨ i / 16 = 1 ∨ i / 16 = 2 ∨ i / 16 = 3 := by omega
  rcases rounds with first | second | third | fourth
  · rw [if_pos (by omega), first]
    rfl
  · rw [if_neg (by omega), if_pos (by omega), second]
    show (d &&& b ||| ~~~d &&& c).toBitVec = b.toBitVec &&& d.toBitVec ||| c.toBitVec &&& ~~~d.toBitVec
    rw [UInt32.and_comm d b, UInt32.and_comm (~~~d) c]
    rfl
  · rw [if_neg (by omega), if_neg (by omega), if_pos (by omega), third]
    rfl
  · rw [if_neg (by omega), if_neg (by omega), if_neg (by omega), fourth]
    rfl

theorem wordIndex_eq : ∀ i < 64, wordIndex i = wordTaken i := by
  decide

theorem toNat_turns : ∀ i < 64, (turns.getD i 0).toNat = rotateBy i := by
  decide

theorem rotateBy_pos : ∀ i < 64, 0 < rotateBy i := by
  decide

theorem rotateBy_lt : ∀ i < 64, rotateBy i < 32 := by
  decide

/-- The words of a block by their places. -/
def blockWords (block : Bytes) (k : Fin 16) : Word :=
  (wordsOf block).getD k 0

theorem blockWords_eq (block : Bytes) (k : Fin 16) : blockWords block k = ((words block).getD k 0).toBitVec :=
  List.getD_map (words block) 0 UInt32.toBitVec

/-- Step `i` of mixing a block in. -/
def stepAt (i : Nat) : Nat × UInt32 × UInt32 :=
  (i, sines.getD i 0, turns.getD i 0)

theorem steps_eq : steps = (List.range 64).map stepAt := by
  decide

/-- The words of a state before step `i` are what the registers hold, from the one on that operation `i` writes. -/
structure Agrees (i : Nat) (state : State) (registers : Registers) : Prop where
  a : registers (target i) = state.a.toBitVec
  b : registers (target i + 1) = state.b.toBitVec
  c : registers (target i + 2) = state.c.toBitVec
  d : registers (target i + 3) = state.d.toBitVec

/-- The register that is written next stands before the one that was written last. -/
theorem target_succ (i : Nat) : target (i + 1) + 1 = target i := by
  have all : ∀ turn : Fin 4, (![0, 3, 2, 1] (turn + 1) + 1 : Fin 4) = ![0, 3, 2, 1] turn := by decide
  have next : Fin.ofNat 4 (i + 1) = Fin.ofNat 4 i + 1 := by
    apply Fin.ext
    simp [Fin.val_add]
  rw [target, target, next]
  exact all _

section

variable {i : Nat} {state : State} {registers : Registers}

/-- A step computes what the operation of its number computes. -/
theorem Agrees.outcome_eq (lt : i < 64) (h : Agrees i state registers) (block : Bytes) :
    outcome (blockWords block) i registers = (state.mix (words block) (stepAt i)).b.toBitVec := by
  have amount := toNat_turns i lt
  have turned := fun x => toBitVec_turn x (amount ▸ rotateBy_lt i lt) (amount ▸ rotateBy_pos i lt)
  simp only [outcome, h.a, h.b, h.c, h.d]
  rw [← amount, blockWords_eq, ← wordIndex_eq i lt, ← toBitVec_blend lt, ← toBitVec_sine lt,
    BitVec.add_assoc _ _ (sines.getD i 0).toBitVec, BitVec.add_comm _ (sines.getD i 0).toBitVec, ← BitVec.add_assoc]
  exact congrArg _ (turned _).symm

/-- A step keeps the state and the registers together: one register is written, which is then the second one. -/
theorem Agrees.step (lt : i < 64) (h : Agrees i state registers) (block : Bytes) :
    Agrees (i + 1) (state.mix (words block) (stepAt i)) (operate (blockWords block) registers i) := by
  have written := h.outcome_eq lt block
  have next := target_succ i
  have others : ∀ t : Fin 4, t ≠ t + 1 ∧ t + 2 ≠ t + 1 ∧ t + 3 ≠ t + 1 := by decide
  have circle : ∀ t : Fin 4, t + 1 + 1 = t + 2 ∧ t + 1 + 2 = t + 3 ∧ t + 1 + 3 = t := by decide
  obtain ⟨a, c, d⟩ := others (target (i + 1))
  obtain ⟨b', c', d'⟩ := circle (target (i + 1))
  rw [operate, written, ← next]
  constructor
  · rw [Function.update_of_ne a, ← d', next]
    exact h.d
  · rw [Function.update_self]
  · rw [Function.update_of_ne c, ← b', next]
    exact h.b
  · rw [Function.update_of_ne d, ← c', next]
    exact h.c

end

/-! ## A block -/

/-- The registers that hold the words of a state. -/
def State.registers (state : State) : Registers :=
  ![state.a.toBitVec, state.b.toBitVec, state.c.toBitVec, state.d.toBitVec]

theorem agrees_zero (state : State) : Agrees 0 state state.registers :=
  ⟨rfl, rfl, rfl, rfl⟩

/-- After any number of steps the state and the registers agree. -/
theorem agrees_steps (state : State) (block : Bytes) {n : Nat} (le : n ≤ 64) :
    Agrees n (((List.range n).map stepAt).foldl (State.mix (words block)) state)
      ((List.range n).foldl (operate (blockWords block)) state.registers) := by
  induction n with
  | zero => exact agrees_zero state
  | succ n ih =>
    rw [List.range_succ, List.map_append, List.foldl_append, List.foldl_append]
    exact (ih (Nat.le_of_succ_le le)).step le block

/-- Mixing a block into a state mixes its words into the registers. -/
theorem absorb_registers (state : State) (block : Bytes) :
    Standard.absorb (blockWords block) state.registers = (state.absorb block).registers := by
  have done := agrees_steps state block (Nat.le_refl 64)
  rw [← steps_eq] at done
  funext j
  unfold Standard.absorb
  match j with
  | 0 => exact congrArg (state.a.toBitVec + ·) done.a
  | 1 => exact congrArg (state.b.toBitVec + ·) done.b
  | 2 => exact congrArg (state.c.toBitVec + ·) done.c
  | 3 => exact congrArg (state.d.toBitVec + ·) done.d

/-! ## All blocks -/

/-- The first sixteen words are mixed in before the rest is. -/
theorem absorbAll_append {front : List Word} (length : front.length = 16) (rest : List Word) (registers : Registers) :
    absorbAll (front ++ rest) registers = absorbAll rest (Standard.absorb (fun k => front.getD k 0) registers) := by
  have count : (front ++ rest).length / 16 = rest.length / 16 + 1 := by
    rw [List.length_append, length]
    omega
  have first : ∀ k : Fin 16, (front ++ rest).getD (16 * 0 + k) 0 = front.getD k 0 := by
    intro k
    rw [List.getD_append _ _ _ _ (by omega), Nat.zero_add]
  have later : ∀ i (k : Fin 16), (front ++ rest).getD (16 * (i + 1) + k) 0 = rest.getD (16 * i + k) 0 := by
    intro i k
    rw [List.getD_append_right _ _ _ _ (by omega), length]
    congr 1
    omega
  rw [absorbAll, count, List.range_succ_eq_map, List.foldl_cons, List.foldl_map]
  simp only [first, later, Nat.succ_eq_add_one]
  rfl

/-- Mixing the blocks of a message into a state mixes its words into the registers. -/
theorem absorbAll_registers (message : Bytes) (whole : message.length % 64 = 0) (state : State) :
    absorbAll (wordsOf message) state.registers = ((blocks message).foldl State.absorb state).registers := by
  fun_induction blocks message generalizing state with
  | case1 message long ih =>
    have length : (message.take 64).length = 64 := List.length_take_of_le long
    have shorter : (message.drop 64).length % 64 = 0 := by
      rw [List.length_drop]
      omega
    have block := whole_of_length (message.take 64) (by omega)
    have sixteen : (wordsOf (message.take 64)).length = 16 := by
      have four := block.length_wordsOf
      omega
    have parts : wordsOf message = wordsOf (message.take 64) ++ wordsOf (message.drop 64) := by
      rw [← block.wordsOf_append, List.take_append_drop]
    rw [parts, absorbAll_append sixteen, List.foldl_cons, ← ih shorter]
    exact congrArg _ (absorb_registers state (message.take 64))
  | case2 message short =>
    have empty : message = [] := List.length_eq_zero_iff.1 (by omega)
    rw [empty]
    rfl

end Offscreen.Md5
