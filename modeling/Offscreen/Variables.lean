import Offscreen.Command

/-!
# Environment variables

The variables of a process: each has a name and a value. A command inherits them with its own
changes.
-/

namespace Offscreen
set_option autoImplicit false

/-- The variables of a process. -/
abbrev Variables := ByteMap Bytes

namespace Variables

/-- What is read under a name. Each variable stands as one line, its name, an equals sign and its
value, and a name is looked for at the beginning of a line, up to an equals sign: so a name with an
equals sign in it can reach into a value. -/
def read? (environment : Variables) (name : Bytes) : Option Bytes :=
  match Bytes.cut equals name with
  | (_, none) => environment.get? name
  | (name, some rest) =>
    (environment.get? name).bind fun value =>
      if (rest ++ [equals]).isPrefixOf value then some (value.drop (rest.length + 1)) else none

/-- The variables without one of them. -/
def erase (environment : Variables) (name : Bytes) : Variables :=
  ⟨environment.entries.filter fun entry => entry.1 ≠ name, environment.increasing.filter _⟩

/-- The variables that a command finds set. -/
def inheritedBy (environment : Variables) (command : Command) : Variables :=
  command.changes.entries.foldl
    (fun environment (name, value) =>
      match value with
      | some value => environment.insert name value
      | none => erase environment name)
    environment

end Variables
end Offscreen
