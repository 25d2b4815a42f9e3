/-!
# Byte strings

Paths, words of a command line, values of environment variables and file contents are strings of
bytes in any encoding or in none. This module names the bytes that the rest of the library gives a
meaning to.
-/

namespace Offscreen
set_option autoImplicit false

/-- A string of bytes in any encoding, or in none. -/
abbrev Bytes := List UInt8

/-- Ends the words that a program is given, so no word can hold it. -/
def nul : UInt8 := 0x00

/-- Ends a line. -/
def newline : UInt8 := 0x0a

/-- Parts the words of a command line that is shown as text. -/
def space : UInt8 := 0x20

/-- Parts the features that a build is asked for. -/
def comma : UInt8 := 0x2c

/-- Opens an option. -/
def hyphen : UInt8 := 0x2d

/-- Alone between two slashes, it names the directory that it stands in. -/
def dot : UInt8 := 0x2e

/-- Parts the names of a path. -/
def slash : UInt8 := 0x2f

/-- Parts the directories of a search path. -/
def colon : UInt8 := 0x3a

/-- Parts an option or a variable from its value. -/
def equals : UInt8 := 0x3d

namespace Bytes

/-- The bytes of an ASCII text, one for each character. -/
def ascii (text : String) : Bytes :=
  text.toList.map fun c => UInt8.ofNat c.toNat

/-- An ASCII capital as its small letter, any other byte as it is. -/
def lowerByte (b : UInt8) : UInt8 :=
  if 0x41 ≤ b ∧ b ≤ 0x5a then b + 0x20 else b

/-- ASCII capitals as small letters. -/
def lower (bytes : Bytes) : Bytes :=
  bytes.map lowerByte

/-- What stands before the first `mark`, and what stands after it, if there is one. -/
def cut (mark : UInt8) : Bytes → Bytes × Option Bytes
  | [] => ([], none)
  | b :: rest =>
    if b = mark then ([], some rest)
    else
      let (before, after) := cut mark rest
      (b :: before, after)

end Bytes
end Offscreen
