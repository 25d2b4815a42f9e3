import Offscreen.ErrorNumber
import Offscreen.Text.Quoted

/-!
# Faults

Everything that can stop a lookup, a setup or a launch, with the text that tells a user about it.
A fault is never recovered from: it ends what was asked for.
-/

namespace Offscreen
set_option autoImplicit false

/-- Why the operating system, or the way to it, refused something. -/
inductive IoFault where
  /-- An error number of the operating system. -/
  | os (number : Int)
  /-- A path that holds a NUL byte never reaches the operating system. -/
  | nulInPath
  /-- A program or an argument that holds a NUL byte never reaches the operating system. -/
  | nulInWord
  /-- Another cause, in words. -/
  | other (text : String)
  deriving DecidableEq, Repr

namespace IoFault

/-- There is no such file. -/
def notFound : IoFault := .os 2
/-- The words for a program are too long. -/
def wordsTooLong : IoFault := .os 7
/-- The file is no program. -/
def notExecutable : IoFault := .os 8
/-- The file may not be used so. -/
def permissionDenied : IoFault := .os 13
/-- A path leads through something other than a directory. -/
def notDirectory : IoFault := .os 20
/-- A directory cannot be read as a file. -/
def isDirectory : IoFault := .os 21
/-- A name or a path is too long. -/
def nameTooLong : IoFault := .os 36
/-- A path leads through too many links. -/
def tooManyLinks : IoFault := .os 40

/-- The text that tells about a cause. -/
def message : IoFault → String
  | .os number => ErrorNumber.text number
  | .nulInPath => "file name contained an unexpected NUL byte"
  | .nulInWord => "nul byte found in provided data"
  | .other text => text

end IoFault

/-- Why a lookup, a setup or a launch stopped. -/
inductive Fault where
  /-- No entry of the build directory belongs to the package. -/
  | dependencyNotFound (package buildDir : Bytes)
  /-- A file, a directory or one of its entries could not be read. -/
  | filesystemAccess (path : Bytes) (cause : IoFault)
  /-- A library directory cannot stand in a search path. -/
  | invalidSearchPath (directories : List Bytes)
  /-- A program could not be started. -/
  | processSpawn (program : String) (cause : IoFault)
  /-- A program ended without success, by itself with a code or by a signal. -/
  | processFailed (program : String) (code : Option Int)
  deriving DecidableEq, Repr

namespace Fault

/-- Why a list of directories makes no search path. -/
def separatorWording : String :=
  "path segment contains separator \x60:\x60"

/-- The text that tells about a fault. -/
def message : Fault → String
  | .dependencyNotFound package buildDir =>
    "Dependency '" ++ package.shown ++ "' not found in " ++ buildDir.shown ++
      ". Build wrench with the headless feature first."
  | .filesystemAccess path cause => "Cannot access " ++ path.shown ++ ": " ++ cause.message
  | .invalidSearchPath directories =>
    "Cannot build library search path from " ++ String.ofList (Quoted.list directories) ++ ": " ++
      separatorWording
  | .processSpawn program cause => "Failed to launch '" ++ program ++ "': " ++ cause.message
  | .processFailed program code =>
    "'" ++ program ++ "' exited unsuccessfully (" ++
      (match code with
        | some code => "exit code " ++ toString code
        | none => "terminated by signal") ++ ")"

/-- The text of what caused a fault, where something else did. -/
def cause? : Fault → Option String
  | .filesystemAccess _ cause | .processSpawn _ cause => some cause.message
  | .invalidSearchPath _ => some separatorWording
  | .dependencyNotFound .. | .processFailed .. => none

end Fault
end Offscreen
