import Offscreen.Action
import Offscreen.Digest.Md5
import Offscreen.Failure
import Offscreen.Session

/-!
# The tool's actions

`run` builds the renderer and runs it, `reftest` runs it twice and prints the digest of its
screenshot, `env` prints what would be set for it. The steps of an action follow one another, and
the first one that fails ends it. The environment is set for the renderer alone, never for the build
and never for the tool itself.
-/

namespace Offscreen.Tool
set_option autoImplicit false

/-- The command that builds the renderer. -/
def buildCommand (cargo : Bytes) (features : List Bytes) : Command :=
  let chosen := if features = [] then []
    else [Bytes.ascii "--features", [comma].intercalate features]
  .plain cargo (["build", "--release"].map Bytes.ascii ++ chosen)

/-- The command that runs the renderer off screen. -/
def renderCommand (config : Config) (args : List Bytes) : Command :=
  .plain config.wrenchBin (Bytes.ascii "-h" :: args)

/-- The command that renders one frame of a file. -/
def showCommand (config : Config) (path : Bytes) : Command :=
  .plain config.wrenchBin (["-t", "1", "-h", "show"].map Bytes.ascii ++ [path])

/-- Where the renderer leaves its frame. -/
def screenshotFile : Bytes := Bytes.ascii "screenshot.png"

/-- The digest of a file in hexadecimal digits. -/
def digestOf (files : Files) (path : Bytes) : Except Fault (List Char) :=
  match files.read path with
  | .error cause => .error (.filesystemAccess path cause)
  | .ok stretches => .ok (Md5.hexOfStretches stretches)

/-- The text that `env` prints. -/
def envText (files : Files) (config : Config) (platform : Option Platform) :
    Except Fault String :=
  let platform := platform.getD config.platform
  if platform.supported then
    (Rendering.configure files platform config.wrenchBin).map Overrides.text
  else
    .ok ("# Software rendering is not configured on " ++ platform.name ++
      "; wrench inherits the current environment\n")

/-- What `env` tells about its work. -/
def envEvents (files : Files) (config : Config) (platform : Option Platform) : List Event :=
  let platform := platform.getD config.platform
  if platform.supported then Event.ofSetup files platform config.wrenchBin else []

section
variable {σ : Type} (host : Host σ)

/-- Works out the environment for the renderer from the files as they are now. -/
def configure (config : Config) : Session σ Overrides := do
  let files ← Session.files host
  Session.tell (Event.ofSetup files config.platform config.wrenchBin)
  Session.ofExcept (Rendering.configure files config.platform config.wrenchBin)

/-- Builds the renderer, unless that is skipped, and runs it. -/
def run (config : Config) (skipBuild : Bool) (features args : List Bytes) : Session σ Unit := do
  if skipBuild then Session.tell [.buildSkipped]
  else Session.runCommand host (buildCommand config.cargo features)
  let overrides ← configure host config
  Session.runCommand host (overrides.applyTo (renderCommand config args))

/-- Renders one frame, runs the reference tests and prints the digest of the screenshot. -/
def reftest (config : Config) (path : Bytes) (screenshot : Option Bytes) : Session σ Unit := do
  let overrides ← configure host config
  Session.runCommand host (overrides.applyTo (showCommand config path))
  Session.runCommand host (overrides.applyTo (renderCommand config [Bytes.ascii "reftest"]))
  let digest ← Session.ofExcept (digestOf (← Session.files host) (screenshot.getD screenshotFile))
  Session.print ("md5 = " ++ String.ofList digest ++ "\n")

/-- Prints the variables that would be set for the renderer. -/
def env (config : Config) (platform : Option Platform) : Session σ Unit := do
  let files ← Session.files host
  Session.tell (envEvents files config platform)
  Session.print (← Session.ofExcept (envText files config platform))

/-- Does what the tool is asked to do. -/
def act (config : Config) : Action → Session σ Unit
  | .run skipBuild features args => run host config skipBuild features args
  | .reftest path screenshot => reftest host config path screenshot
  | .env platform => env host config platform

/-- Does what the tool is asked to do, from a state of the machine on. A fault is a failure to the
user. -/
def perform (config : Config) (action : Action) (state : σ) : Except Failure Unit × Record σ :=
  let (result, record) := (act host config action).run (Record.start state)
  (result.mapError Failure.ofFault, record)

end

/-- The status that the tool exits with. -/
def exitStatus : Except Failure Unit → Int
  | .ok () => 0
  | .error failure => failure.exitStatus

end Offscreen.Tool
