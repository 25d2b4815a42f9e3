import Offscreen.Digest.Md5

/-!
# The digest of a message taken in piece by piece

A hasher keeps the finished blocks of what it has taken in mixed and the rest waiting (`Holds`). This
is so after each byte, hence after any stretches of bytes, and so the digest of a content that is read
in stretches is the digest of the whole content (`hexOfStretches_eq`).
-/

namespace Offscreen.Md5
set_option autoImplicit false

theorem blocks_of_short {message : Bytes} (short : message.length < 64) : blocks message = [] := by
  rw [blocks, if_neg (by omega)]

theorem blocks_append {block : Bytes} (whole : block.length = 64) (rest : Bytes) :
    blocks (block ++ rest) = block :: blocks rest := by
  have long : 64 ≤ (block ++ rest).length := by
    rw [List.length_append]
    omega
  rw [blocks, if_pos long, ← whole, List.take_left, List.drop_left]

/-- Whole blocks in front of a rest that is none are the blocks of a message. -/
theorem blocks_flatten_append {done : List Bytes} {rest : Bytes}
    (whole : ∀ block ∈ done, block.length = 64) (short : rest.length < 64) :
    blocks (done.flatten ++ rest) = done := by
  induction done with
  | nil => exact blocks_of_short short
  | cons block later ih =>
    obtain ⟨first, others⟩ := List.forall_mem_cons.1 whole
    rw [List.flatten_cons, List.append_assoc, blocks_append first, ih others]

/-- The state of four words after the finished blocks of a message. -/
def mixed (message : Bytes) : State :=
  (blocks message).foldl State.absorb .initial

namespace Hasher

/-- A hasher that has taken a message in. -/
structure Holds (hasher : Hasher) (message : Bytes) : Prop where
  short : hasher.pending.length < 64
  length : hasher.length = message.length
  /-- The message is some whole blocks, which are mixed, and the bytes that wait. -/
  split : ∃ done : List Bytes, (∀ block ∈ done, block.length = 64) ∧
    message = done.flatten ++ hasher.pending ∧ hasher.state = done.foldl State.absorb .initial

variable {hasher : Hasher} {message : Bytes}

theorem initial_holds : initial.Holds [] :=
  ⟨by decide, rfl, [], by simp, rfl, rfl⟩

theorem Holds.state_eq (h : hasher.Holds message) : hasher.state = mixed message := by
  obtain ⟨done, whole, rfl, mixed⟩ := h.split
  rw [mixed, Md5.mixed, blocks_flatten_append whole h.short]

/-- A byte either fills the waiting bytes up to a block, which is mixed, or waits with them. -/
theorem Holds.push (h : hasher.Holds message) (byte : UInt8) :
    (hasher.push byte).Holds (message ++ [byte]) := by
  obtain ⟨done, whole, parts, mixed⟩ := h.split
  have short := h.short
  have count : (hasher.pending ++ [byte]).length = hasher.pending.length + 1 := List.length_append
  have length : hasher.length + 1 = (message ++ [byte]).length := by
    rw [h.length, List.length_append, List.length_singleton]
  unfold Hasher.push
  by_cases full : (hasher.pending ++ [byte]).length = 64
  · rw [if_pos full]
    refine ⟨by simp, length, done ++ [hasher.pending ++ [byte]], ?_, ?_, ?_⟩
    · intro block mem
      rcases List.mem_append.1 mem with old | new
      · exact whole block old
      · rw [List.mem_singleton.1 new, full]
    · rw [parts]
      simp
    · rw [List.foldl_append, ← mixed]
      rfl
  · rw [if_neg full]
    refine ⟨by change (hasher.pending ++ [byte]).length < 64; omega, length, done, whole, ?_, mixed⟩
    rw [parts, List.append_assoc]

theorem Holds.update (h : hasher.Holds message) (stretch : Bytes) :
    (hasher.update stretch).Holds (message ++ stretch) := by
  unfold Hasher.update
  induction stretch generalizing hasher message with
  | nil => simpa using h
  | cons byte rest ih =>
    have taken := ih (h.push byte)
    rwa [List.append_assoc, List.singleton_append] at taken

theorem Holds.updates (h : hasher.Holds message) (stretches : List Bytes) :
    (stretches.foldl Hasher.update hasher).Holds (message ++ stretches.flatten) := by
  induction stretches generalizing hasher message with
  | nil => simpa using h
  | cons stretch rest ih =>
    have taken := ih (h.update stretch)
    rwa [List.append_assoc, ← List.flatten_cons] at taken

/-- What a hasher gives at the end is the digest of what it has taken in. -/
theorem Holds.finish_eq (h : hasher.Holds message) : hasher.finish = digest message := by
  have padded := h.update (padding message.length)
  rw [finish, h.length, padded.state_eq]
  rfl

end Hasher

/-- It does not matter where a content is cut when it is read. -/
theorem hexOfStretches_eq (stretches : List Bytes) :
    hexOfStretches stretches = hex (digest stretches.flatten) := by
  have taken := Hasher.initial_holds.updates stretches
  rw [hexOfStretches, taken.finish_eq, List.nil_append]

end Offscreen.Md5
