import Offscreen.Invocation
import Offscreen.Proofs.Attempts
import Offscreen.Proofs.Reftest
import Offscreen.Proofs.Rendering
import Offscreen.Proofs.Run

/-!
# The status that the tool exits with

An action goes on only after commands that ended in success (`accountable_act`), so the first command
that fails is the last one and decides the status; every other failure is one of the files, with a status
of its own. No failure has the status of success (`exit_status_answers`).
-/

namespace Offscreen
set_option autoImplicit false

/-! ## Faults of the files -/

theorem Lookup.ofFiles_of_require {files : Files} {package binary : Bytes} {fault : Fault}
    (h : require files package binary = .error fault) : fault.OfFiles := by
  unfold require at h
  split at h
  · rename_i other failed
    obtain ⟨path, cause, rfl⟩ := resolve_error failed
    cases h
    trivial
  · cases h
    trivial
  · cases h

theorem Rendering.ofFiles_of_overrides {name : Bytes} {dirs : List Bytes} {fault : Fault}
    (h : overrides name dirs = .error fault) : fault.OfFiles := by
  obtain ⟨-, rfl⟩ := SearchPath.ofDirectories_eq_error_iff.1 (overrides_eq_error_iff.1 h)
  trivial

/-- A setup starts no program, so no fault of it is one of a program. -/
theorem Rendering.ofFiles_of_configure {files : Files} {platform : Platform} {binary : Bytes} {fault : Fault}
    (h : configure files platform binary = .error fault) : fault.OfFiles := by
  cases required : Lookup.require files package binary with
  | error other =>
    have supported : platform.supported = true := by
      cases platform <;> first | rfl | cases h
    cases (configure_of_require_error supported required).symm.trans h
    exact Lookup.ofFiles_of_require required
  | ok output =>
    cases platform with
    | linux | macos =>
      simp only [configure, required, bind, Except.bind] at h
      exact ofFiles_of_overrides h
    | windows | other => cases h

namespace Tool

theorem ofFiles_of_digestOf {files : Files} {path : Bytes} {fault : Fault}
    (h : digestOf files path = .error fault) : fault.OfFiles := by
  unfold digestOf at h
  split at h
  · cases h
    trivial
  · cases h

theorem ofFiles_of_envText {files : Files} {config : Config} {platform : Option Platform} {fault : Fault}
    (h : envText files config platform = .error fault) : fault.OfFiles := by
  simp only [envText] at h
  split at h
  · cases configured : Rendering.configure files (platform.getD config.platform) config.wrenchBin with
    | error other =>
      rw [configured] at h
      cases h
      exact Rendering.ofFiles_of_configure configured
    | ok overrides =>
      rw [configured] at h
      cases h
  · cases h

/-! ## Actions -/

section

open Session

variable {σ : Type} {host : Host σ} {config : Config}

theorem accountable_configure : Accountable host (configure host config) :=
  accountable_files.bind fun _ => (accountable_tell _).bind fun _ =>
    accountable_ofExcept fun _ => Rendering.ofFiles_of_configure

theorem accountable_run (skipBuild : Bool) (features args : List Bytes) :
    Accountable host (run host config skipBuild features args) := by
  have built : Accountable host (buildStep host config skipBuild features) := by
    unfold buildStep
    split
    · exact accountable_tell _
    · exact accountable_runCommand _
  rw [run_eq_bind]
  exact built.bind fun _ => accountable_configure.bind fun _ => accountable_runCommand _

theorem accountable_reftest (path : Bytes) (screenshot : Option Bytes) :
    Accountable host (reftest host config path screenshot) := by
  have digested : Accountable host (digestStep host (screenshot.getD screenshotFile)) :=
    accountable_files.bind fun _ =>
      (accountable_ofExcept fun _ => ofFiles_of_digestOf).bind fun _ => accountable_print _
  rw [reftest_eq_bind]
  exact accountable_configure.bind fun _ => (accountable_runCommand _).bind fun _ =>
    (accountable_runCommand _).bind fun _ => digested

theorem accountable_env (platform : Option Platform) :
    Accountable host (env host config platform) :=
  accountable_files.bind fun _ => (accountable_tell _).bind fun _ =>
    (accountable_ofExcept fun _ => ofFiles_of_envText).bind fun _ => accountable_print _

/-- Whatever the tool is asked to do, it goes on only after commands that ended in success. -/
theorem accountable_act (host : Host σ) (config : Config) (action : Action) :
    Accountable host (act host config action) := by
  cases action with
  | run skipBuild features args => exact accountable_run skipBuild features args
  | reftest path screenshot => exact accountable_reftest path screenshot
  | env platform => exact accountable_env platform

end

/-! ## Statuses -/

/-- The byte of a report that holds the code of a program that ended by itself. -/
theorem code_le (raw : UInt32) : ((raw >>> 8) &&& 0xff).toNat ≤ 255 := by
  rw [UInt32.toNat_and]
  exact Nat.and_le_right

/-- A program that fails hands its code on, unless it has none or the code is the one of success. -/
theorem exitStatus_of_code (program : String) (raw : UInt32) :
    (Failure.ofFault (.processFailed program (WaitStatus.code? ⟨raw⟩))).exitStatus =
      if raw &&& 0x7f = 0 ∧ (raw >>> 8) &&& 0xff ≠ 0 then (((raw >>> 8) &&& 0xff).toNat : Int) else 71 := by
  change (Failure.process _ (WaitStatus.code? ⟨raw⟩)).exitStatus = _
  by_cases exited : raw &&& 0x7f = 0
  · have coded : WaitStatus.code? ⟨raw⟩ = some (((raw >>> 8) &&& 0xff).toNat : Int) := if_pos exited
    have same : (((raw >>> 8) &&& 0xff).toNat : Int) = 0 ↔ (raw >>> 8) &&& 0xff = 0 := by
      rw [Int.natCast_eq_zero, ← UInt32.toNat_zero, UInt32.toNat_inj]
    rw [coded, Failure.exitStatus]
    by_cases zero : (raw >>> 8) &&& 0xff = 0
    · rw [if_pos (same.2 zero), if_neg fun both => both.2 zero]
      rfl
    · rw [if_neg (mt same.1 zero), if_pos ⟨exited, zero⟩]
  · have uncoded : WaitStatus.code? ⟨raw⟩ = none := if_neg exited
    rw [uncoded, if_neg fun both => exited both.1]
    rfl

/-- The failure that a fault is tells the whole text of the fault. -/
theorem message_ofFault (fault : Fault) : ∃ intro, (Failure.ofFault fault).message = intro ++ fault.message := by
  cases fault with
  | dependencyNotFound package buildDir => exact ⟨"", String.empty_append.symm⟩
  | filesystemAccess | invalidSearchPath => exact ⟨"IO error: ", rfl⟩
  | processSpawn | processFailed => exact ⟨"Process error: ", rfl⟩

/-- What the status and the text of a failure say of an action that ended so. -/
structure Answers {σ : Type} (host : Host σ) (start : σ) (launches : List Command)
    (ended : Except Fault Unit) (result : Except Failure Unit) (status : Int) : Prop where
  /-- No failure is told as success. -/
  zero_iff : status = 0 ↔ ended = .ok ()
  ok_iff : result = .ok () ↔ ended = .ok ()
  /-- The status of a failure stays one in eight bits. -/
  range : ended ≠ .ok () → 1 ≤ status ∧ status ≤ 255
  /-- The first command that ends with a status other than 0 is the last one. -/
  failed : ∀ before command later raw, launches = before ++ command :: later →
    (host.attempt command (host.afterAll before start)).1 = .ok ⟨raw⟩ → raw ≠ 0 → later = [] ∧
      status = if raw &&& 0x7f = 0 ∧ (raw >>> 8) &&& 0xff ≠ 0 then (((raw >>> 8) &&& 0xff).toNat : Int)
        else 71
  /-- So is the first command that does not start. -/
  unstarted : ∀ before command later cause, launches = before ++ command :: later →
    (host.attempt command (host.afterAll before start)).1 = .error cause → later = [] ∧ status = 71
  /-- Where every command ended in success, only the files can be to blame. -/
  blameless : host.Succeeds launches start → ended = .ok () ∨
    (∃ package dir, ended = .error (.dependencyNotFound package dir) ∧ status = 69) ∨
    (∃ path cause, ended = .error (.filesystemAccess path cause) ∧ status = 74) ∨
    ∃ dirs, ended = .error (.invalidSearchPath dirs) ∧ status = 74
  missing : ∀ package dir, ended = .error (.dependencyNotFound package dir) → status = 69
  unreadable : ∀ path cause, ended = .error (.filesystemAccess path cause) → status = 74
  unrepresentable : ∀ dirs, ended = .error (.invalidSearchPath dirs) → status = 74
  told : ∀ fault, ended = .error fault →
    ∃ failure intro, result = .error failure ∧ failure.message = intro ++ fault.message

variable {σ : Type} {host : Host σ} {start : σ} {launches : List Command} {ended : Except Fault Unit}

/-- The fault of a command has a status other than that of success. -/
theorem range_of_verdict {command : Command} {state : σ} {fault : Fault}
    (h : host.verdict command state = .error fault) :
    1 ≤ (Failure.ofFault fault).exitStatus ∧ (Failure.ofFault fault).exitStatus ≤ 255 := by
  cases attempted : (host.attempt command state).1 with
  | error cause =>
    cases (Host.verdict_of_unstarted attempted).symm.trans h
    simp [Failure.ofFault, Failure.exitStatus, Failure.osError]
  | ok status =>
    obtain ⟨raw⟩ := status
    by_cases zero : raw = 0
    · subst zero
      cases (Host.verdict_eq_ok_iff.2 attempted).symm.trans h
    · cases (Host.verdict_of_ended attempted zero).symm.trans h
      rw [exitStatus_of_code]
      split
      · rename_i coded
        have positive : ((raw >>> 8) &&& 0xff).toNat ≠ 0 := fun none =>
          coded.2 (UInt32.toNat_inj.1 none)
        have bounded := code_le raw
        omega
      · decide

/-- So has a fault of the files. -/
theorem range_of_ofFiles {fault : Fault} (h : fault.OfFiles) :
    1 ≤ (Failure.ofFault fault).exitStatus ∧ (Failure.ofFault fault).exitStatus ≤ 255 := by
  cases fault with
  | dependencyNotFound => simp [Failure.ofFault, Failure.exitStatus, Failure.unavailable]
  | filesystemAccess | invalidSearchPath => simp [Failure.ofFault, Failure.exitStatus, Failure.ioError]
  | processSpawn | processFailed => cases h

theorem range_of_ending {fault : Fault} (h : Ending host start launches (.error fault : Except Fault Unit)) :
    1 ≤ (Failure.ofFault fault).exitStatus ∧ (Failure.ofFault fault).exitStatus ≤ 255 := by
  cases h with
  | files _ ofFiles => exact range_of_ofFiles ofFiles
  | last _ failed => exact range_of_verdict failed

/-- Where every command ended in success, the fault is none of a command. -/
theorem ofFiles_of_succeeds {fault : Fault} (h : Ending host start launches (.error fault : Except Fault Unit))
    (succeed : host.Succeeds launches start) : fault.OfFiles := by
  cases h with
  | files _ ofFiles => exact ofFiles
  | last _ failed => cases succeed.verdict.symm.trans failed

/-- However a session ends, its status answers for it. -/
theorem Answers.of_ending (h : Ending host start launches ended) :
    Answers host start launches ended (ended.mapError .ofFault) (exitStatus (ended.mapError .ofFault)) where
  zero_iff := by
    cases ended with
    | ok => exact ⟨fun _ => rfl, fun _ => rfl⟩
    | error fault =>
      have positive := (range_of_ending h).1
      constructor
      · intro zero
        change (Failure.ofFault fault).exitStatus = 0 at zero
        omega
      · intro ok
        cases ok
  ok_iff := mapError_eq_ok_iff
  range := by
    intro failed
    cases ended with
    | ok => exact absurd rfl failed
    | error fault => exact range_of_ending h
  failed := by
    rintro before command later raw rfl attempted nonzero
    obtain ⟨rfl, rfl⟩ := h.of_failed (Host.verdict_of_ended attempted nonzero)
    exact ⟨rfl, exitStatus_of_code _ raw⟩
  unstarted := by
    rintro before command later cause rfl attempted
    obtain ⟨rfl, rfl⟩ := h.of_failed (Host.verdict_of_unstarted attempted)
    exact ⟨rfl, rfl⟩
  blameless := by
    intro succeed
    cases ended with
    | ok => exact .inl rfl
    | error fault =>
      have ofFiles := ofFiles_of_succeeds h succeed
      cases fault with
      | dependencyNotFound package dir => exact .inr (.inl ⟨package, dir, rfl, rfl⟩)
      | filesystemAccess path cause => exact .inr (.inr (.inl ⟨path, cause, rfl, rfl⟩))
      | invalidSearchPath dirs => exact .inr (.inr (.inr ⟨dirs, rfl, rfl⟩))
      | processSpawn | processFailed => cases ofFiles
  missing := by
    rintro package dir rfl
    rfl
  unreadable := by
    rintro path cause rfl
    rfl
  unrepresentable := by
    rintro dirs rfl
    rfl
  told := by
    rintro fault rfl
    obtain ⟨intro, text⟩ := message_ofFault fault
    exact ⟨_, intro, rfl, text⟩

/-- **The status of an action.** Whatever the machine does, the tool exits with 0 exactly if the action
went well, and else with the status of the first thing that failed. -/
theorem exit_status_answers (host : Host σ) (config : Config) (action : Action) (start : σ) :
    Answers host start (perform host config action start).2.launches
        ((act host config action).run (.start start)).1 (perform host config action start).1
        (exitStatus (perform host config action start).1) ∧
      ∀ filter request, (Invocation.carryOut host filter request start).1.outcome.exitStatus =
        exitStatus (perform host request.config request.action start).1 := by
  constructor
  · obtain ⟨commands, ended, after, ran, launched, -, ending⟩ :=
      accountable_act host config action (.start start)
    have same : commands = after.launches := launched.symm
    rw [perform, ran]
    exact Answers.of_ending (same ▸ ending)
  · intro filter request
    rfl

/-- A build that ends with a status of 0x80, which has neither a signal nor a code, fails with 71. -/
theorem exit_status_of_no_code :
    let silent : Files :=
      ⟨fun _ => .error .notFound, fun _ => .error .notFound, fun _ => .error .notFound⟩
    let host : Host Unit := ⟨fun _ => silent, fun _ _ => (.ok ⟨0x80⟩, ())⟩
    exitStatus (perform host ⟨Bytes.ascii "wrench", Bytes.ascii "cargo", .linux⟩ (.run false [] []) ()).1 =
      71 := by
  intro silent host
  have answers := (exit_status_answers host ⟨Bytes.ascii "wrench", Bytes.ascii "cargo", .linux⟩
    (.run false [] []) ()).1
  obtain ⟨-, status⟩ := answers.failed [] _ [] 0x80 rfl rfl (by decide)
  exact status.trans (by decide)

end Tool
end Offscreen
