import Offscreen.Platform
import Offscreen.Text.Quoted

/-!
# Actions

What the tool can be asked to do.
-/

namespace Offscreen
set_option autoImplicit false

/-- Something that the tool can be asked to do. -/
inductive Action where
  /-- Build the renderer with some features, unless the build is skipped, and run it with some
  arguments. -/
  | run (skipBuild : Bool) (features args : List Bytes)
  /-- Render a file, run the reference tests and print the digest of the screenshot. -/
  | reftest (path : Bytes) (screenshot : Option Bytes)
  /-- Print the variables that would be set on a platform. -/
  | env (platform : Option Platform)
  deriving DecidableEq, Repr

namespace Action

/-- A value that may be missing, in diagnostics. -/
def optional (value : Option String) : String :=
  match value with
  | some text => "Some(" ++ text ++ ")"
  | none => "None"

/-- The text of an action in diagnostics. -/
def text : Action → String
  | .run skipBuild features args =>
    "Run \x7b skip_build: " ++ toString skipBuild ++ ", features: " ++
      String.ofList (Quoted.list features) ++ ", args: " ++ String.ofList (Quoted.list args) ++
      " \x7d"
  | .reftest path screenshot =>
    "Reftest \x7b path: " ++ path.quoted ++ ", screenshot: " ++
      optional (screenshot.map Bytes.quoted) ++ " \x7d"
  | .env platform => "Env \x7b platform: " ++ optional (platform.map Platform.label) ++ " \x7d"

end Action
end Offscreen
