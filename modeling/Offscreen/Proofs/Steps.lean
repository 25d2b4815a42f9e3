import Offscreen.Tool
import Offscreen.Proofs.Overrides
import Offscreen.Proofs.Session

/-!
# The steps of an action

The commands that an action attempts, word for word and with the changes that they carry, and the
step that works out the overrides for the renderer from the files as they are (`configure_run`).
-/

namespace Offscreen.Tool
set_option autoImplicit false

/-! ## The commands -/

/-- The build, which changes no variable. -/
def builder (config : Config) (features : List Bytes) : Command where
  program := config.cargo
  args := [Bytes.ascii "build", Bytes.ascii "--release"] ++
    if features = [] then [] else [Bytes.ascii "--features", [comma].intercalate features]
  changes := ∅

/-- The renderer with some words, whose changes are exactly some overrides. -/
def renderer (config : Config) (overrides : Overrides) (words : List Bytes) : Command where
  program := config.wrenchBin
  args := words
  changes := overrides.changes

theorem buildCommand_eq (config : Config) (features : List Bytes) :
    buildCommand config.cargo features = builder config features := rfl

theorem applyTo_renderCommand (config : Config) (overrides : Overrides) (args : List Bytes) :
    overrides.applyTo (renderCommand config args) =
      renderer config overrides (Bytes.ascii "-h" :: args) :=
  overrides.applyTo_plain config.wrenchBin _

/-- The changes of a command tell which overrides it was given. -/
theorem renderer_inj {config : Config} {a b : Overrides} {words : List Bytes}
    (h : renderer config a words = renderer config b words) : a = b :=
  Overrides.changes_injective (congrArg Command.changes h)

theorem mapError_eq_ok_iff {result : Except Fault Unit} {view : Fault → Failure} :
    result.mapError view = .ok () ↔ result = .ok () := by
  cases result with
  | error fault => exact ⟨nofun, nofun⟩
  | ok => exact ⟨fun _ => rfl, fun _ => rfl⟩

section

variable {σ : Type} (host : Host σ) (config : Config)

/-- The variables for the renderer, worked out from the files of a state. -/
def setup (state : σ) : Except Fault Overrides :=
  Rendering.configure (host.files state) config.platform config.wrenchBin

/-- What is told about the setup in a state. -/
def setupEvents (state : σ) : List Event :=
  Event.ofSetup (host.files state) config.platform config.wrenchBin

variable {host config}

theorem configure_run (record : Record σ) :
    (configure host config).run record =
      (setup host config record.state, record.told (setupEvents host config record.state)) := by
  rw [configure, Session.bind_of_ok (Session.files_run _ _), Session.bind_of_ok (Session.tell_run _ _)]
  rfl

/-- Nothing is done with overrides that there are not. -/
theorem configure_bind_of_error {next : Overrides → Session σ Unit} {record : Record σ} {fault : Fault}
    (failed : setup host config record.state = .error fault) :
    (configure host config >>= next).run record =
      (.error fault, record.told (setupEvents host config record.state)) := by
  apply Session.bind_of_error
  rw [configure_run, failed]

theorem configure_bind_of_ok {next : Overrides → Session σ Unit} {record : Record σ}
    {overrides : Overrides} (ready : setup host config record.state = .ok overrides) :
    (configure host config >>= next).run record =
      (next overrides).run (record.told (setupEvents host config record.state)) := by
  apply Session.bind_of_ok
  rw [configure_run, ready]

end
end Offscreen.Tool
