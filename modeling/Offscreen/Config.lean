import Offscreen.Platform

/-!
# Configuration

What every action of the tool needs to know about where it runs.
-/

namespace Offscreen
set_option autoImplicit false

/-- Where the renderer and the build program are, and what they run on. -/
structure Config where
  /-- The path of the renderer. -/
  wrenchBin : Bytes
  /-- The program that builds the renderer. -/
  cargo : Bytes
  /-- The platform to set software rendering up for. -/
  platform : Platform
  deriving DecidableEq, Repr

end Offscreen
