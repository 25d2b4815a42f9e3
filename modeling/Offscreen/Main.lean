import Offscreen.Invocation
import Offscreen.Scratch.Stage

/-!
# The command line

Hands the words of the command line and the variables of the environment to the tool, shows what the
tool has printed and told, and exits with its status. The machine that it hands over is a stage
without files: the words are judged, and whatever needs a file or a program is answered as missing.
-/

namespace Offscreen
set_option autoImplicit false

/-- The variables that the tool itself pays heed to. -/
def heededVariables : List String := ["WRENCH_BIN", "CARGO", "RUST_LOG"]

/-- What is shown when the words of a command line are not carried out. -/
def usage : String :=
  "Usage: wrench-headless [OPTIONS] <COMMAND>\n\nCommands: run, reftest, env, help\n" ++
    "Options: --wrench-bin <PATH>, --cargo <PROGRAM>, -v, --verbose, -h, --help, -V, --version\n"

/-- The variables of the environment that the tool pays heed to. -/
def heeded : IO Variables := do
  let mut environment : Variables := ByteMap.empty
  for name in heededVariables do
    if let some value ← IO.getEnv name then
      environment := environment.insert (Bytes.ofText name) (Bytes.ofText value)
  return environment

/-- Shows what an invocation has left. -/
def present (report : Report) : IO Unit := do
  for line in report.lines do
    IO.eprintln line
  match report.outcome with
  | .refused .displayHelp => IO.print usage
  | .refused .displayVersion | .ended _ | .brokenOff => IO.print report.printed
  | .refused _ => IO.eprint usage
  if let some complaint := report.outcome.complaint? then
    IO.eprint complaint

end Offscreen

/-- The tool's command line. -/
def main (words : List String) : IO UInt32 := do
  let stage := Offscreen.Scratch.Stage.of (Offscreen.Scratch.Tree.upTo [])
  let (report, _) := Offscreen.Invocation.run Offscreen.Scratch.Stage.host (← Offscreen.heeded)
    (words.map Offscreen.Bytes.ofText) stage
  Offscreen.present report
  return UInt32.ofNat report.outcome.exitStatus.toNat
