import Offscreen.Proofs.Session

/-!
# What a session attempts, and how it ends

A session attempts some commands, one after the other, and goes on only after one that ended in success.
So the fault that ends it is that of the last command, or a fault of the files and of no command at all
(`Ending`). This holds of every step (`accountable_runCommand` and its siblings), and of steps that follow
one another if it holds of each (`Accountable.bind`).
-/

namespace Offscreen
set_option autoImplicit false

variable {σ α β : Type}

/-- A fault of what is in the files, and of no program. -/
def Fault.OfFiles : Fault → Prop
  | .dependencyNotFound .. | .filesystemAccess .. | .invalidSearchPath .. => True
  | .processSpawn .. | .processFailed .. => False

namespace Host
variable {host : Host σ} {before later : List Command} {command : Command} {state : σ}

theorem verdict_of_ended {raw : UInt32} (h : (host.attempt command state).1 = .ok ⟨raw⟩)
    (failed : raw ≠ 0) : host.verdict command state =
      .error (.processFailed command.programName (WaitStatus.code? ⟨raw⟩)) := by
  rw [verdict, h]
  exact if_neg failed

theorem verdict_of_unstarted {cause : IoFault} (h : (host.attempt command state).1 = .error cause) :
    host.verdict command state = .error (.processSpawn command.programName cause) := by
  rw [verdict, h]

/-- The state of the machine after some commands were attempted, one after the other. -/
def afterAll (host : Host σ) (commands : List Command) (state : σ) : σ :=
  commands.foldl (fun state command => host.after command state) state

/-- Whether some commands end in success, one after the other. -/
def Succeeds (host : Host σ) : List Command → σ → Prop
  | [], _ => True
  | command :: later, state =>
    host.verdict command state = .ok () ∧ host.Succeeds later (host.after command state)

theorem afterAll_append (before later : List Command) (state : σ) :
    host.afterAll (before ++ later) state = host.afterAll later (host.afterAll before state) :=
  List.foldl_append

theorem succeeds_append : host.Succeeds (before ++ later) state ↔
    host.Succeeds before state ∧ host.Succeeds later (host.afterAll before state) := by
  induction before generalizing state with
  | nil => simp [Succeeds, afterAll]
  | cons command before ih =>
    rw [List.cons_append, Succeeds, Succeeds, ih, and_assoc]
    rfl

/-- Of commands that all succeed each one does, in the state that those before it leave. -/
theorem Succeeds.verdict (h : host.Succeeds (before ++ command :: later) state) :
    host.verdict command (host.afterAll before state) = .ok () :=
  (succeeds_append.1 h).2.1

end Host

/-- How a part of a session can end after the commands that it attempted. -/
inductive Ending (host : Host σ) (state : σ) : List Command → Except Fault α → Prop where
  /-- Well, as all of them did. -/
  | well {commands : List Command} (value : α) (succeed : host.Succeeds commands state) :
      Ending host state commands (.ok value)
  /-- With a fault of the files, after all of them ended well. -/
  | files {commands : List Command} {fault : Fault} (succeed : host.Succeeds commands state)
      (ofFiles : fault.OfFiles) : Ending host state commands (.error fault)
  /-- With the fault of the last of them. -/
  | last {before : List Command} {command : Command} {fault : Fault} (succeed : host.Succeeds before state)
      (failed : host.verdict command (host.afterAll before state) = .error fault) :
      Ending host state (before ++ [command]) (.error fault)

namespace Ending
variable {host : Host σ} {state : σ} {before later commands : List Command} {command : Command}
  {result : Except Fault α} {fault : Fault}

/-- Commands that ended well can come before. -/
theorem prepend (succeed : host.Succeeds before state)
    (h : Ending host (host.afterAll before state) later result) :
    Ending host state (before ++ later) result := by
  cases h with
  | well value succeed' => exact .well value (Host.succeeds_append.2 ⟨succeed, succeed'⟩)
  | files succeed' ofFiles => exact .files (Host.succeeds_append.2 ⟨succeed, succeed'⟩) ofFiles
  | last succeed' failed =>
    rw [← List.append_assoc]
    rw [← Host.afterAll_append] at failed
    exact .last (Host.succeeds_append.2 ⟨succeed, succeed'⟩) failed

/-- A command that fails is the last one, and its fault is that of the whole. -/
theorem of_failed (h : Ending host state (before ++ command :: later) result)
    (failed : host.verdict command (host.afterAll before state) = .error fault) :
    later = [] ∧ result = .error fault := by
  generalize split : before ++ command :: later = attempted at h
  cases h with
  | well value succeed =>
    rw [← split] at succeed
    cases succeed.verdict.symm.trans failed
  | files succeed =>
    rw [← split] at succeed
    cases succeed.verdict.symm.trans failed
  | @last earlier final fault' succeed failed' =>
    rcases List.eq_nil_or_concat later with rfl | ⟨more, other, rfl⟩
    · obtain ⟨rfl, same⟩ := List.append_inj' split rfl
      cases same
      cases failed'.symm.trans failed
      exact ⟨rfl, rfl⟩
    · rw [List.concat_eq_append, ← List.cons_append, ← List.append_assoc] at split
      obtain ⟨rfl, -⟩ := List.append_inj' split rfl
      cases succeed.verdict.symm.trans failed

end Ending

namespace Session

/-- Whether a session always ends so, and changes the machine by its commands alone. -/
def Accountable (host : Host σ) (session : Session σ α) : Prop :=
  ∀ record, ∃ commands result after, session.run record = (result, after) ∧
    after.launches = record.launches ++ commands ∧ after.state = host.afterAll commands record.state ∧
    Ending host record.state commands result

variable {host : Host σ} {first : Session σ α} {next : α → Session σ β}

theorem accountable_tell (events : List Event) : Accountable host (tell events) := by
  intro record
  exact ⟨[], _, _, tell_run _ _, (List.append_nil _).symm, rfl, .well () trivial⟩

theorem accountable_print (text : String) : Accountable host (print text) := by
  intro record
  exact ⟨[], _, _, print_run _ _, (List.append_nil _).symm, rfl, .well () trivial⟩

theorem accountable_files : Accountable host (files host) := by
  intro record
  exact ⟨[], _, _, files_run _ _, (List.append_nil _).symm, rfl, .well _ trivial⟩

/-- A result that is known already attempts nothing, so its fault must be of the files. -/
theorem accountable_ofExcept {result : Except Fault α} (h : ∀ fault, result = .error fault → fault.OfFiles) :
    Accountable host (ofExcept result) := by
  intro record
  refine ⟨[], _, _, ofExcept_run _ _, (List.append_nil _).symm, rfl, ?_⟩
  cases result with
  | error fault => exact .files trivial (h fault rfl)
  | ok value => exact .well value trivial

theorem accountable_runCommand (command : Command) : Accountable host (runCommand host command) := by
  intro record
  refine ⟨[command], _, _, runCommand_run host command record, rfl, rfl, ?_⟩
  rcases host.verdict_cases command record.state with ⟨fault, failed⟩ | ok
  · rw [failed]
    have none : host.Succeeds [] record.state := trivial
    exact .last none failed
  · rw [ok]
    exact .well () ⟨ok, trivial⟩

/-- The commands of two steps are those of the first, and then those of the second if there is one. -/
theorem Accountable.bind (hf : Accountable host first) (hn : ∀ value, Accountable host (next value)) :
    Accountable host (first >>= next) := by
  intro record
  obtain ⟨commands, result, middle, ran, launched, left, ending⟩ := hf record
  cases ending with
  | well value succeed =>
    obtain ⟨later, result, after, ran', launched', left', ending⟩ := hn value middle
    rw [left] at ending left'
    refine ⟨commands ++ later, result, after, (bind_of_ok ran).trans ran', ?_, ?_, ending.prepend succeed⟩
    · rw [launched', launched, List.append_assoc]
    · rw [left', Host.afterAll_append]
  | files succeed ofFiles =>
    exact ⟨commands, _, middle, bind_of_error ran, launched, left, .files succeed ofFiles⟩
  | last succeed failed =>
    exact ⟨_, _, middle, bind_of_error ran, launched, left, .last succeed failed⟩

end Session
end Offscreen
