import Offscreen.Command

/-!
# Overrides of the environment

The variables that a program is to find set, kept in the order of their names. Setting a variable
again replaces its value. The text of the overrides has one line for each variable.
-/

namespace Offscreen
set_option autoImplicit false

/-- The variables to set for a program. -/
structure Overrides where
  /-- The values by name. -/
  values : ByteMap Bytes
  deriving DecidableEq

namespace Overrides

/-- No variable is set. -/
def empty : Overrides := ⟨∅⟩

/-- Sets a variable. -/
def set (overrides : Overrides) (name value : Bytes) : Overrides :=
  ⟨overrides.values.insert name value⟩

/-- The value of a variable. -/
def get? (overrides : Overrides) (name : Bytes) : Option Bytes :=
  overrides.values.get? name

/-- The names of the variables in increasing order. -/
def names (overrides : Overrides) : List Bytes :=
  overrides.values.keys

/-- How many variables are set. -/
def size (overrides : Overrides) : Nat :=
  overrides.values.size

/-- Whether no variable is set. -/
def isEmpty (overrides : Overrides) : Bool :=
  overrides.values.entries.isEmpty

/-- The line of one variable. -/
def line (name value : Bytes) : List Char :=
  Utf8.lossy name ++ ['='] ++ Utf8.lossy value ++ ['\n']

/-- The lines of all variables in the order of their names. -/
def lines (overrides : Overrides) : List Char :=
  overrides.values.entries.flatMap fun entry => line entry.1 entry.2

/-- The text of the overrides. -/
def text (overrides : Overrides) : String :=
  String.ofList overrides.lines

/-- Sets all variables for a command, in place of its own changes of them. -/
def applyTo (overrides : Overrides) (command : Command) : Command :=
  overrides.values.entries.foldl (fun command entry => command.set entry.1 entry.2) command

end Overrides
end Offscreen
