import Offscreen.Text.CodePoints
import Offscreen.Text.Utf8

/-!
# Quoted byte strings

A byte string between double quotes, so that it can be told apart from any other. A character
that is not plain is spelt out, and so are the quote and the backslash; an ill-formed byte is
written as `\x` with two capital hexadecimal digits.
-/

namespace Offscreen.Quoted
set_option autoImplicit false

/-- A number in small hexadecimal digits, without leading zeros. -/
def hex (n : Nat) : List Char :=
  Nat.toDigits 16 n

/-- The capital hexadecimal digit of a number below sixteen. -/
def capitalDigit (n : Nat) : Char :=
  if n < 10 then Char.ofNat (0x30 + n) else Char.ofNat (0x41 + (n - 10))

/-- How a character stands in a quoted text. -/
def escape (c : Char) : List Char :=
  if c = '\x00' then ['\\', '0']
  else if c = '\t' then ['\\', 't']
  else if c = '\r' then ['\\', 'r']
  else if c = '\n' then ['\\', 'n']
  else if c = '"' then ['\\', '"']
  else if c = '\\' then ['\\', '\\']
  else if Printable.plain c then [c]
  else ['\\', 'u', '{'] ++ hex c.toNat ++ ['}']

/-- How an ill-formed byte stands in a quoted text. -/
def escapeByte (b : UInt8) : List Char :=
  ['\\', 'x', capitalDigit (b.toNat / 16), capitalDigit (b.toNat % 16)]

/-- How a piece stands in a quoted text. -/
def escapePiece : Utf8.Piece → List Char
  | .char c => escape c
  | .illFormed bytes => bytes.flatMap escapeByte

/-- A byte string in quotes. -/
def quote (bytes : Bytes) : List Char :=
  ['"'] ++ (Utf8.pieces bytes).flatMap escapePiece ++ ['"']

/-- A list of byte strings in quotes, between brackets. -/
def list (items : List Bytes) : List Char :=
  ['['] ++ [',', ' '].intercalate (items.map quote) ++ [']']

end Offscreen.Quoted

namespace Offscreen.Bytes

/-- A byte string in quotes, from which its bytes can be told. -/
def quoted (bytes : Bytes) : String :=
  String.ofList (Quoted.quote bytes)

end Offscreen.Bytes
