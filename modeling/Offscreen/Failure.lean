import Offscreen.Fault

/-!
# Failures

What a user of the tool sees of a fault: one of three kinds, a text that holds the text of the
fault, and the status that the tool exits with. A program that ended with a code of its own hands
that code on; every other failure has the status of its kind.
-/

namespace Offscreen
set_option autoImplicit false

/-- Why the tool ends without success. -/
inductive Failure where
  /-- Something that the build should have left is missing. -/
  | dependency (message : String)
  /-- A file could not be read, or a path not be formed. -/
  | io (message : String)
  /-- A program failed, with a code if it had one. -/
  | process (message : String) (code : Option Int)
  deriving DecidableEq, Repr

namespace Failure

/-- The failure that a fault is. -/
def ofFault (fault : Fault) : Failure :=
  match fault with
  | .dependencyNotFound .. => .dependency fault.message
  | .filesystemAccess .. | .invalidSearchPath .. => .io fault.message
  | .processSpawn .. => .process fault.message none
  | .processFailed _ code => .process fault.message code

/-- The text that tells about a failure. -/
def message : Failure → String
  | .dependency message => message
  | .io message => "IO error: " ++ message
  | .process message _ => "Process error: " ++ message

/-- A service that is needed is unavailable. -/
def unavailable : Int := 69
/-- The operating system refused something. -/
def osError : Int := 71
/-- Something could not be read or written. -/
def ioError : Int := 74

/-- The status that the tool exits with. -/
def exitStatus : Failure → Int
  | .dependency _ => unavailable
  | .io _ => ioError
  | .process _ none => osError
  | .process _ (some code) => if code = 0 then osError else code

end Failure
end Offscreen
