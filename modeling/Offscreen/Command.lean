import Offscreen.ByteMap
import Offscreen.Fault

/-!
# Commands

A program with its arguments and with the changes that it makes to the environment it inherits.
A change sets a variable or takes it away; of two changes of one variable the later counts. A
command is not run here: `describe` shows it as text, `WaitStatus.check` judges how it ended.
-/

namespace Offscreen
set_option autoImplicit false

/-- A program that is to be started. -/
structure Command where
  /-- The program, as a path or as a name that is searched for. -/
  program : Bytes
  /-- The words that it is given. -/
  args : List Bytes
  /-- For each variable that it changes the new value, or none where it takes the variable away. -/
  changes : ByteMap (Option Bytes)
  deriving DecidableEq

namespace Command

/-- A command that inherits its environment unchanged. -/
def plain (program : Bytes) (args : List Bytes) : Command :=
  ⟨program, args, ∅⟩

/-- Sets a variable. -/
def set (command : Command) (name value : Bytes) : Command :=
  { command with changes := command.changes.insert name (some value) }

/-- Takes a variable away. -/
def remove (command : Command) (name : Bytes) : Command :=
  { command with changes := command.changes.insert name none }

/-- How a word stands in a command that is shown: a word that no program can be given is replaced
by a note. -/
def shownWord (word : Bytes) : Bytes :=
  if nul ∈ word then Bytes.ascii "<string-with-nul>" else word

/-- The program and its arguments. -/
def words (command : Command) : List Bytes :=
  command.program :: command.args

/-- The command as text, its words parted by single spaces and not quoted. -/
def describe (command : Command) : String :=
  String.ofList ([' '].intercalate (command.words.map fun word => Utf8.lossy (shownWord word)))

/-- The program as text. -/
def programName (command : Command) : String :=
  (shownWord command.program).shown

/-- Whether no program can be given these words or this environment. -/
def holdsNul (command : Command) : Bool :=
  command.words.any (nul ∈ ·) ||
    command.changes.entries.any fun (name, value) => nul ∈ name || (value.getD []).contains nul

end Command

/-- How a program ended, as the operating system reports it. -/
structure WaitStatus where
  /-- The bits of the report. -/
  raw : UInt32
  deriving DecidableEq, Repr

namespace WaitStatus

/-- A program that ended by itself with a code. -/
def exited (code : UInt8) : WaitStatus := ⟨code.toUInt32 <<< 8⟩

/-- A program that a signal ended. -/
def killed (signal : UInt8) : WaitStatus := ⟨signal.toUInt32 &&& 0x7f⟩

/-- The code of a program that ended by itself. -/
def code? (status : WaitStatus) : Option Int :=
  if status.raw &&& 0x7f = 0 then some ((status.raw >>> 8) &&& 0xff).toNat else none

/-- Only a report without any bit is success. -/
def check (program : String) (status : WaitStatus) : Except Fault Unit :=
  if status.raw = 0 then .ok () else .error (.processFailed program status.code?)

end WaitStatus
end Offscreen
