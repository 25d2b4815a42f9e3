import Offscreen.Bytes

/-!
# Platforms

The families of operating systems, as far as the setup of software rendering tells them apart.
-/

namespace Offscreen
set_option autoImplicit false

/-- A family of operating systems. -/
inductive Platform where
  | windows
  | macos
  | linux
  | other
  deriving DecidableEq, Repr

namespace Platform

/-- The platform that this tool is built for. -/
def current : Platform := .linux

/-- Whether the setup of software rendering is known for a platform. -/
def supported : Platform → Bool
  | .macos | .linux => true
  | .windows | .other => false

/-- The name that a platform is shown by. -/
def name : Platform → String
  | .windows => "windows"
  | .macos => "macos"
  | .linux => "linux"
  | .other => "other"

/-- The label of a platform in diagnostics. -/
def label : Platform → String
  | .windows => "Windows"
  | .macos => "MacOS"
  | .linux => "Linux"
  | .other => "Other"

/-- The names that a platform is asked for by. -/
def names : List (String × Platform) :=
  [("windows", .windows), ("macos", .macos), ("darwin", .macos), ("linux", .linux),
    ("other", .other)]

/-- The platform of a name, in small or capital letters of ASCII. -/
def ofName? (name : Bytes) : Option Platform :=
  (names.find? fun entry => Bytes.ascii entry.1 == name.lower).map (·.2)

end Platform
end Offscreen
