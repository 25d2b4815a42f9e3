import Offscreen.Log.Event

/-!
# Sessions

A session is what an action of the tool does to the machine it runs on: it reads files, starts
programs, prints and tells about its work. Nothing is assumed about the machine. Files can be read
at any moment, and starting a command changes the machine in any way it likes, whether it succeeds
or not. The record of a session keeps each command that was attempted.
-/

namespace Offscreen
set_option autoImplicit false

/-- A machine with states in `σ`. -/
structure Host (σ : Type) where
  /-- What can be read in a state. -/
  files : σ → Files
  /-- Starts a command and waits for its end, or fails to start it. -/
  launch : Command → σ → Except IoFault WaitStatus × σ

/-- Attempts to start a command. Words that hold a NUL byte fail before the machine is asked. -/
def Host.attempt {σ : Type} (host : Host σ) (command : Command) (state : σ) :
    Except IoFault WaitStatus × σ :=
  if command.holdsNul then (.error .nulInWord, state) else host.launch command state

/-- What has happened in a session so far. -/
structure Record (σ : Type) where
  /-- The state of the machine. -/
  state : σ
  /-- The commands whose start was attempted, in order. -/
  launches : List Command
  /-- What the tool itself has printed. -/
  printed : String
  /-- What the tool has told about its work. -/
  events : List Event

/-- The record of a session that begins. -/
def Record.start {σ : Type} (state : σ) : Record σ := ⟨state, [], "", []⟩

/-- A part of a session, which a fault can end. -/
abbrev Session (σ : Type) := ExceptT Fault (StateM (Record σ))

namespace Session
variable {σ : Type}

/-- Tells about the work. -/
def tell (events : List Event) : Session σ Unit :=
  modify fun record => { record with events := record.events ++ events }

/-- Prints a text. -/
def print (text : String) : Session σ Unit :=
  modify fun record => { record with printed := record.printed ++ text }

/-- The files as they are now. -/
def files (host : Host σ) : Session σ Files := do
  return host.files (← get).state

/-- Attempts to start a command and waits for its end. -/
def launch (host : Host σ) (command : Command) : Session σ (Except IoFault WaitStatus) := do
  let record ← get
  let (result, state) := host.attempt command record.state
  set { record with state := state, launches := record.launches ++ [command] }
  return result

/-- A result that is known already. -/
def ofExcept {α : Type} (result : Except Fault α) : Session σ α :=
  fun record => (result, record)

/-- Runs a command, which must start and end in success. -/
def runCommand (host : Host σ) (command : Command) : Session σ Unit := do
  tell [.running command]
  match ← launch host command with
  | .error cause => throw (.processSpawn command.programName cause)
  | .ok status => ofExcept (status.check command.programName)

end Session
end Offscreen
