import Offscreen.CommandLine.Request
import Offscreen.EnvFile
import Offscreen.Log.Filter
import Offscreen.Tool

/-!
# One invocation of the tool

From the words of a command line and the variables of the environment to the status that the tool
exits with. A file of variables is loaded before the words are read, so that it can stand in for
options.
-/

namespace Offscreen
set_option autoImplicit false

/-- How an invocation ended. -/
inductive Outcome where
  /-- The command line was not carried out. -/
  | refused (refusal : CommandLine.Refusal)
  /-- An action was carried out, up to a failure or to its end. -/
  | ended (result : Except Failure Unit)
  /-- The file of variables left none to go on with, or the description of the log was cut inside a
  character. -/
  | brokenOff

namespace Outcome

/-- The status that the tool exits with; 101 tells that it broke off before any work. -/
def exitStatus : Outcome → Int
  | .refused refusal => refusal.exitStatus
  | .ended result => Tool.exitStatus result
  | .brokenOff => 101

/-- The line that tells a user about a failure. -/
def complaint? : Outcome → Option String
  | .ended (.error failure) => some ("error: " ++ failure.message ++ "\n")
  | .ended (.ok ()) | .refused _ | .brokenOff => none

end Outcome

/-- What an invocation has left. -/
structure Report where
  /-- How it ended. -/
  outcome : Outcome
  /-- What the tool itself has printed. -/
  printed : String
  /-- The lines of the log. -/
  lines : List String
  /-- The commands whose start was attempted, in order. -/
  launches : List Command

/-- The variable that describes the filter of the log. -/
def Filter.variable : Bytes := Bytes.ascii "RUST_LOG"

/-- The filter of the log, unless its description is torn. A description that makes no sense counts
as none. -/
def Filter.chosen (environment : Variables) (verbose : Bool) : Option Filter :=
  match ((environment.get? Filter.variable).bind Utf8.decode?).map Filter.ofText with
  | some (.ok filter) => some filter
  | some (.error .torn) => none
  | some (.error .senseless) | none => some (Filter.standard verbose)

namespace Invocation
variable {σ : Type}

/-- The report of an invocation that broke off before any work. -/
def brokenOff : Report := ⟨.brokenOff, "", [], []⟩

/-- Carries a request out on a machine. -/
def carryOut (host : Host σ) (filter : Filter) (request : CommandLine.Request) (state : σ) :
    Report × σ :=
  let (result, record) := Tool.perform host request.config request.action state
  (⟨.ended result, record.printed, filter.lines (.starting request.config :: record.events),
    record.launches⟩, record.state)

/-- Reads a command line and carries it out, on a machine whose programs inherit the variables. -/
def run (host : Variables → Host σ) (environment : Variables) (words : List Bytes) (state : σ) :
    Report × σ :=
  match CommandLine.Request.read environment words with
  | .error refusal =>
    let printed := if refusal = .displayVersion then CommandLine.versionText else ""
    (⟨.refused refusal, printed, [], []⟩, state)
  | .ok request =>
    match Filter.chosen environment request.verbose with
    | some filter => carryOut (host environment) filter request state
    | none => (brokenOff, state)

/-- Loads a file of variables, if there is one, and goes on as `run` does. -/
def runWith (host : Variables → Host σ) (file : Option Bytes) (environment : Variables)
    (words : List Bytes) (state : σ) : Report × σ :=
  match file with
  | none => run host environment words state
  | some content =>
    match EnvFile.load environment content with
    | some environment => run host environment words state
    | none => (brokenOff, state)

end Invocation
end Offscreen
