import Offscreen.Session

/-!
# How the steps of a session go

A step of a session either ends it with a fault or hands its value and its record on (`bind_of_ok`,
`bind_of_error`). A command that is run is attempted exactly once, whatever comes of it, and it goes
well only if the machine reports the status without any bit (`runCommand_run`, `verdict_eq_ok_iff`).
-/

namespace Offscreen
set_option autoImplicit false

section

variable {σ : Type}

/-- What running a command comes to. A command that does not start is one fault, a command that does
not end in success another. -/
def Host.verdict (host : Host σ) (command : Command) (state : σ) : Except Fault Unit :=
  match (host.attempt command state).1 with
  | .error cause => .error (.processSpawn command.programName cause)
  | .ok status =>
    if status.raw = 0 then .ok () else .error (.processFailed command.programName status.code?)

/-- The state of the machine after a command was attempted. -/
def Host.after (host : Host σ) (command : Command) (state : σ) : σ :=
  (host.attempt command state).2

/-- A record after something was told. -/
def Record.told (record : Record σ) (events : List Event) : Record σ :=
  { record with events := record.events ++ events }

/-- A record after a command was attempted. -/
def Record.attempted (record : Record σ) (host : Host σ) (command : Command) : Record σ where
  state := host.after command record.state
  launches := record.launches ++ [command]
  printed := record.printed
  events := record.events ++ [.running command]

@[simp] theorem Record.told_state (record : Record σ) (events : List Event) :
    (record.told events).state = record.state := rfl

@[simp] theorem Record.told_launches (record : Record σ) (events : List Event) :
    (record.told events).launches = record.launches := rfl

@[simp] theorem Record.attempted_launches (record : Record σ) (host : Host σ) (command : Command) :
    (record.attempted host command).launches = record.launches ++ [command] := rfl

@[simp] theorem Record.attempted_printed (record : Record σ) (host : Host σ) (command : Command) :
    (record.attempted host command).printed = record.printed := rfl

theorem Host.verdict_eq_ok_iff {host : Host σ} {command : Command} {state : σ} :
    host.verdict command state = .ok () ↔ (host.attempt command state).1 = .ok ⟨0⟩ := by
  unfold Host.verdict
  cases (host.attempt command state).1 with
  | error cause => simp
  | ok status =>
    obtain ⟨raw⟩ := status
    by_cases zero : raw = 0 <;> simp [zero]

theorem Host.verdict_cases (host : Host σ) (command : Command) (state : σ) :
    (∃ fault, host.verdict command state = .error fault) ∨ host.verdict command state = .ok () := by
  cases host.verdict command state with
  | error fault => exact .inl ⟨fault, rfl⟩
  | ok => exact .inr rfl

end

namespace Session

variable {σ α β : Type} {first : Session σ α} {next : α → Session σ β} {record after : Record σ}

/-- The steps after one that went well go on from its record. -/
theorem bind_of_ok {value : α} (h : first.run record = (.ok value, after)) :
    (first >>= next).run record = (next value).run after := by
  change ExceptT.bindCont next (first.run record).1 (first.run record).2 = _
  rw [h]
  rfl

/-- No step is taken after one that failed. -/
theorem bind_of_error {fault : Fault} (h : first.run record = (.error fault, after)) :
    (first >>= next).run record = (.error fault, after) := by
  change ExceptT.bindCont next (first.run record).1 (first.run record).2 = _
  rw [h]
  rfl

theorem tell_run (events : List Event) (record : Record σ) :
    (tell events).run record = (.ok (), record.told events) := rfl

theorem print_run (text : String) (record : Record σ) :
    (print text).run record = (.ok (), { record with printed := record.printed ++ text }) := rfl

theorem files_run (host : Host σ) (record : Record σ) :
    (files host).run record = (.ok (host.files record.state), record) := rfl

theorem ofExcept_run (result : Except Fault α) (record : Record σ) :
    (ofExcept result).run record = (result, record) := rfl

theorem launch_run (host : Host σ) (command : Command) (record : Record σ) :
    (launch host command).run record =
      (.ok (host.attempt command record.state).1,
        { record with
          state := host.after command record.state
          launches := record.launches ++ [command] }) := rfl

/-- A command that is run is attempted once, and nothing else changes the machine. -/
theorem runCommand_run (host : Host σ) (command : Command) (record : Record σ) :
    (runCommand host command).run record =
      (host.verdict command record.state, record.attempted host command) := by
  rw [runCommand, bind_of_ok (tell_run _ _), bind_of_ok (launch_run _ _ _)]
  rw [Record.told_state, Host.verdict]
  cases (host.attempt command record.state).1 with
  | error cause => rfl
  | ok status =>
    rw [ofExcept_run, WaitStatus.check]
    rfl

theorem runCommand_of_verdict {host : Host σ} {command : Command} {record : Record σ}
    {result : Except Fault Unit} (h : host.verdict command record.state = result) :
    (runCommand host command).run record = (result, record.attempted host command) := by
  rw [runCommand_run, h]

end Session
end Offscreen
