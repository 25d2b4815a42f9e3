import Offscreen.Bytes

/-!
# The MD5 digest

A message is padded to whole blocks of 64 bytes, and each block in turn is mixed into a state of
four words. `digest` says so for a whole message; `Hasher` takes the bytes in as they come and keeps
no more than one unfinished block.
-/

namespace Offscreen.Md5
set_option autoImplicit false

/-- The four words that blocks are mixed into. -/
structure State where
  a : UInt32
  b : UInt32
  c : UInt32
  d : UInt32
  deriving DecidableEq, Repr

/-- The words before the first block. -/
def State.initial : State := ⟨0x67452301, 0xefcdab89, 0x98badcfe, 0x10325476⟩

/-- The bits of a word turned towards the high end. -/
def turn (x : UInt32) (amount : UInt32) : UInt32 :=
  (x <<< amount) ||| (x >>> (32 - amount))

/-- The integer parts of `2 ^ 32 * |sin (i + 1)|`, one for each step. -/
def sines : List UInt32 := [
  0xd76aa478, 0xe8c7b756, 0x242070db, 0xc1bdceee, 0xf57c0faf, 0x4787c62a, 0xa8304613, 0xfd469501,
  0x698098d8, 0x8b44f7af, 0xffff5bb1, 0x895cd7be, 0x6b901122, 0xfd987193, 0xa679438e, 0x49b40821,
  0xf61e2562, 0xc040b340, 0x265e5a51, 0xe9b6c7aa, 0xd62f105d, 0x02441453, 0xd8a1e681, 0xe7d3fbc8,
  0x21e1cde6, 0xc33707d6, 0xf4d50d87, 0x455a14ed, 0xa9e3e905, 0xfcefa3f8, 0x676f02d9, 0x8d2a4c8a,
  0xfffa3942, 0x8771f681, 0x6d9d6122, 0xfde5380c, 0xa4beea44, 0x4bdecfa9, 0xf6bb4b60, 0xbebfbc70,
  0x289b7ec6, 0xeaa127fa, 0xd4ef3085, 0x04881d05, 0xd9d4d039, 0xe6db99e5, 0x1fa27cf8, 0xc4ac5665,
  0xf4292244, 0x432aff97, 0xab9423a7, 0xfc93a039, 0x655b59c3, 0x8f0ccc92, 0xffeff47d, 0x85845dd1,
  0x6fa87e4f, 0xfe2ce6e0, 0xa3014314, 0x4e0811a1, 0xf7537e82, 0xbd3af235, 0x2ad7d2bb, 0xeb86d391]

/-- How far each step turns its word: four amounts in each round, taken in turn. -/
def turns : List UInt32 :=
  [[7, 12, 17, 22], [5, 9, 14, 20], [4, 11, 16, 23], [6, 10, 15, 21]].flatMap fun round =>
    round ++ round ++ round ++ round

/-- The words of a block, least byte first. -/
def words : Bytes → List UInt32
  | p :: q :: r :: s :: rest =>
    (p.toUInt32 ||| q.toUInt32 <<< 8 ||| r.toUInt32 <<< 16 ||| s.toUInt32 <<< 24) :: words rest
  | _ => []

/-- How step `i` blends three words. -/
def blend (i : Nat) (b c d : UInt32) : UInt32 :=
  if i < 16 then (b &&& c) ||| (~~~b &&& d)
  else if i < 32 then (d &&& b) ||| (~~~d &&& c)
  else if i < 48 then b ^^^ c ^^^ d
  else c ^^^ (b ||| ~~~d)

/-- Which word of the block step `i` takes in. -/
def wordIndex (i : Nat) : Nat :=
  if i < 16 then i
  else if i < 32 then (5 * i + 1) % 16
  else if i < 48 then (3 * i + 5) % 16
  else (7 * i) % 16

/-- Step `i` of mixing a block in, with its constant and its turn. -/
def State.mix (block : List UInt32) (state : State) (step : Nat × UInt32 × UInt32) : State :=
  let (i, sine, amount) := step
  let sum := state.a + blend i state.b state.c state.d + sine + block.getD (wordIndex i) 0
  ⟨state.d, state.b + turn sum amount, state.b, state.c⟩

/-- The steps of mixing a block in. -/
def steps : List (Nat × UInt32 × UInt32) :=
  (List.range 64).zip (sines.zip turns)

/-- Mixes a block in. -/
def State.absorb (state : State) (block : Bytes) : State :=
  let mixed := steps.foldl (State.mix (words block)) state
  ⟨state.a + mixed.a, state.b + mixed.b, state.c + mixed.c, state.d + mixed.d⟩

/-- A number in `count` bytes, least byte first. -/
def littleEndian : Nat → Nat → Bytes
  | 0, _ => []
  | count + 1, n => UInt8.ofNat (n % 256) :: littleEndian count (n / 256)

/-- The sixteen bytes of a state. -/
def State.bytes (state : State) : Bytes :=
  [state.a, state.b, state.c, state.d].flatMap fun word => littleEndian 4 word.toNat

/-- What follows a message of `length` bytes: a mark, zeros up to eight bytes before the end of a
block, and the number of bits. -/
def padding (length : Nat) : Bytes :=
  0x80 :: List.replicate ((119 - length % 64) % 64) 0 ++ littleEndian 8 (8 * length)

/-- The blocks of 64 bytes of a message. -/
def blocks (message : Bytes) : List Bytes :=
  if 64 ≤ message.length then message.take 64 :: blocks (message.drop 64) else []
termination_by message.length
decreasing_by simp only [List.length_drop]; omega

/-- The digest of a message. -/
def digest (message : Bytes) : Bytes :=
  ((blocks (message ++ padding message.length)).foldl State.absorb State.initial).bytes

/-- What is known of a message of which some bytes were taken in. -/
structure Hasher where
  /-- The state after the finished blocks. -/
  state : State
  /-- The bytes of the unfinished block. -/
  pending : Bytes
  /-- How many bytes were taken in. -/
  length : Nat
  deriving DecidableEq, Repr

namespace Hasher

/-- No byte was taken in. -/
def initial : Hasher := ⟨.initial, [], 0⟩

/-- Takes one byte in. -/
def push (hasher : Hasher) (byte : UInt8) : Hasher :=
  let block := hasher.pending ++ [byte]
  if block.length = 64 then ⟨hasher.state.absorb block, [], hasher.length + 1⟩
  else ⟨hasher.state, block, hasher.length + 1⟩

/-- Takes a stretch of bytes in. -/
def update (hasher : Hasher) (bytes : Bytes) : Hasher :=
  bytes.foldl push hasher

/-- The digest of the bytes that were taken in. -/
def finish (hasher : Hasher) : Bytes :=
  (hasher.update (padding hasher.length)).state.bytes

end Hasher

/-- The small hexadecimal digit of a number below sixteen. -/
def digit (n : Nat) : Char :=
  if n < 10 then Char.ofNat (0x30 + n) else Char.ofNat (0x61 + (n - 10))

/-- Two small hexadecimal digits for each byte. -/
def hex (bytes : Bytes) : List Char :=
  bytes.flatMap fun b => [digit (b.toNat / 16), digit (b.toNat % 16)]

/-- The digest, in hexadecimal digits, of a content that is read in stretches. -/
def hexOfStretches (stretches : List Bytes) : List Char :=
  hex (stretches.foldl Hasher.update Hasher.initial).finish

end Offscreen.Md5
