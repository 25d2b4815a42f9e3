import Offscreen.Bytes

/-!
# UTF-8

Byte strings are read as text one byte at a time. A lead byte says how many bytes its character
still asks for and bounds the first of them; a byte that does not fit ends the attempt, what was
seen of it is one ill-formed piece, and the byte starts afresh. So an ASCII byte is read as itself
in every state, and each ill-formed piece is as long as it can be.
-/

namespace Offscreen.Utf8
set_option autoImplicit false

/-- The bytes of a text. -/
def encode (text : List Char) : Bytes :=
  text.flatMap String.utf8EncodeChar

/-- What a byte string is made of: characters, and ill-formed stretches that are as long as a
well-formed beginning reaches. -/
inductive Piece where
  | char (c : Char)
  | illFormed (bytes : Bytes)
  deriving DecidableEq, Repr

/-- What a character that has begun still asks for. -/
structure Owed where
  /-- The bits read so far. -/
  value : Nat
  /-- The least byte that may come next. -/
  low : UInt8
  /-- The greatest byte that may come next. -/
  high : UInt8
  /-- How many continuation bytes follow that one. -/
  more : Nat
  deriving DecidableEq, Repr

/-- What a lead byte asks for. The narrowed bounds keep out overlong forms, surrogates and what
lies beyond the last code point. -/
def Owed.ofLead? (b : UInt8) : Option Owed :=
  if b < 0xc2 then none
  else if b ≤ 0xdf then some ⟨b.toNat - 0xc0, 0x80, 0xbf, 0⟩
  else if b = 0xe0 then some ⟨0x0, 0xa0, 0xbf, 1⟩
  else if b = 0xed then some ⟨0xd, 0x80, 0x9f, 1⟩
  else if b ≤ 0xef then some ⟨b.toNat - 0xe0, 0x80, 0xbf, 1⟩
  else if b = 0xf0 then some ⟨0x0, 0x90, 0xbf, 2⟩
  else if b ≤ 0xf3 then some ⟨b.toNat - 0xf0, 0x80, 0xbf, 2⟩
  else if b = 0xf4 then some ⟨0x4, 0x80, 0x8f, 2⟩
  else none

/-- Between two characters, or inside one of which some bytes were seen. -/
inductive State where
  | between
  | inside (owed : Owed) (seen : Bytes)
  deriving DecidableEq, Repr

/-- Reads a byte that begins something. -/
def begin (b : UInt8) : List Piece × State :=
  if b < 0x80 then ([.char (Char.ofNat b.toNat)], .between)
  else match Owed.ofLead? b with
    | none => ([.illFormed [b]], .between)
    | some owed => ([], .inside owed [b])

/-- Reads one byte. -/
def State.step : State → UInt8 → List Piece × State
  | .between, b => begin b
  | .inside owed seen, b =>
    if owed.low ≤ b ∧ b ≤ owed.high then
      let value := owed.value * 64 + (b.toNat - 0x80)
      match owed.more with
      | 0 => ([.char (Char.ofNat value)], .between)
      | more + 1 => ([], .inside ⟨value, 0x80, 0xbf, more⟩ (seen ++ [b]))
    else (.illFormed seen :: (begin b).1, (begin b).2)

/-- What an end of the bytes leaves of a state. -/
def State.finish : State → List Piece
  | .between => []
  | .inside _ seen => [.illFormed seen]

/-- Reads bytes to their end. -/
def State.run (state : State) : Bytes → List Piece
  | [] => state.finish
  | b :: rest =>
    let (out, next) := state.step b
    out ++ next.run rest

/-- The pieces of a byte string. -/
def pieces (bytes : Bytes) : List Piece :=
  State.between.run bytes

/-- The character that is shown for a piece: an ill-formed one is shown as U+FFFD. -/
def Piece.shown : Piece → Char
  | .char c => c
  | .illFormed _ => '\uFFFD'

/-- The text that is shown for a byte string. -/
def lossy (bytes : Bytes) : List Char :=
  (pieces bytes).map Piece.shown

/-- The character of a well-formed piece. -/
def Piece.char? : Piece → Option Char
  | .char c => some c
  | .illFormed _ => none

/-- The text of a byte string, if it is well-formed. -/
def decode? (bytes : Bytes) : Option (List Char) :=
  (pieces bytes).mapM Piece.char?

/-- Whether a byte string is well-formed UTF-8. -/
def isText (bytes : Bytes) : Bool :=
  (pieces bytes).all fun piece => piece.char?.isSome

end Offscreen.Utf8

namespace Offscreen.Bytes

/-- The text that is shown for a byte string: each ill-formed piece becomes one U+FFFD. -/
def shown (bytes : Bytes) : String :=
  String.ofList (Utf8.lossy bytes)

/-- The bytes of a text. -/
def ofText (text : String) : Bytes :=
  Utf8.encode text.toList

end Offscreen.Bytes
