import Offscreen.Proofs.Digest
import Offscreen.Proofs.Steps

/-!
# How `reftest` goes

`reftest` sets the renderer up once, from the files at its start. It then shows a frame and runs the
reference tests, both with the same overrides, and reads the screenshot from the files that the tests
have left. It prints the line with the digest of the screenshot if every step went well, and nothing
if one failed (`reftest_protocol`).
-/

namespace Offscreen.Tool
set_option autoImplicit false

/-- The renderer that shows a frame of a file. -/
def shower (config : Config) (overrides : Overrides) (path : Bytes) : Command :=
  renderer config overrides (["-t", "1", "-h", "show"].map Bytes.ascii ++ [path])

/-- The renderer that runs the reference tests. -/
def tester (config : Config) (overrides : Overrides) : Command :=
  renderer config overrides (["-h", "reftest"].map Bytes.ascii)

/-- The line with the digest of a content. -/
def digestLine (content : Bytes) : String :=
  "md5 = " ++ String.ofList (Md5.hex (Md5.digest content)) ++ "\n"

theorem applyTo_showCommand (config : Config) (overrides : Overrides) (path : Bytes) :
    overrides.applyTo (showCommand config path) = shower config overrides path :=
  overrides.applyTo_plain config.wrenchBin _

theorem applyTo_testCommand (config : Config) (overrides : Overrides) :
    overrides.applyTo (renderCommand config [Bytes.ascii "reftest"]) = tester config overrides :=
  applyTo_renderCommand config overrides _

theorem digestOf_of_error {files : Files} {path : Bytes} {cause : IoFault}
    (failed : files.read path = .error cause) :
    digestOf files path = .error (.filesystemAccess path cause) := by
  rw [digestOf, failed]

/-- However a content is read in stretches, its digest is the one of the whole. -/
theorem digestOf_of_ok {files : Files} {path : Bytes} {stretches : List Bytes}
    (readable : files.read path = .ok stretches) :
    digestOf files path = .ok (Md5.hex (Md5.digest stretches.flatten)) := by
  rw [digestOf, readable]
  exact congrArg _ (Md5.hexOfStretches_eq stretches)

section

variable {σ : Type} (host : Host σ) (config : Config)

/-- The state after a frame was shown. -/
def shownState (overrides : Overrides) (path : Bytes) (start : σ) : σ :=
  host.after (shower config overrides path) start

/-- The state after the reference tests were run as well. -/
def testedState (overrides : Overrides) (path : Bytes) (start : σ) : σ :=
  host.after (tester config overrides) (shownState host config overrides path start)

/-- The ways in which `reftest` goes once the renderer is set up, each with its end, with the commands
that it attempts and with what it prints. -/
inductive ReftestCourse (overrides : Overrides) (path file : Bytes) (start : σ) :
    Except Fault Unit → List Command → String → Prop where
  | unshown (fault : Fault)
      (failed : host.verdict (shower config overrides path) start = .error fault) :
      ReftestCourse overrides path file start (.error fault) [shower config overrides path] ""
  | untested (fault : Fault)
      (shown : host.verdict (shower config overrides path) start = .ok ())
      (failed : host.verdict (tester config overrides) (shownState host config overrides path start) =
        .error fault) :
      ReftestCourse overrides path file start (.error fault)
        [shower config overrides path, tester config overrides] ""
  | unread (cause : IoFault)
      (shown : host.verdict (shower config overrides path) start = .ok ())
      (tested : host.verdict (tester config overrides) (shownState host config overrides path start) =
        .ok ())
      (failed : (host.files (testedState host config overrides path start)).read file = .error cause) :
      ReftestCourse overrides path file start (.error (.filesystemAccess file cause))
        [shower config overrides path, tester config overrides] ""
  | digested (stretches : List Bytes)
      (shown : host.verdict (shower config overrides path) start = .ok ())
      (tested : host.verdict (tester config overrides) (shownState host config overrides path start) =
        .ok ())
      (readable : (host.files (testedState host config overrides path start)).read file = .ok stretches) :
      ReftestCourse overrides path file start (.ok ())
        [shower config overrides path, tester config overrides] (digestLine stretches.flatten)

/-- Prints the digest of a file as it is now. -/
def digestStep (file : Bytes) : Session σ Unit := do
  let digest ← Session.ofExcept (digestOf (← Session.files host) file)
  Session.print ("md5 = " ++ String.ofList digest ++ "\n")

/-- What `reftest` does after the setup. -/
def testSteps (path file : Bytes) (overrides : Overrides) : Session σ Unit := do
  Session.runCommand host (overrides.applyTo (showCommand config path))
  Session.runCommand host (overrides.applyTo (renderCommand config [Bytes.ascii "reftest"]))
  digestStep host file

variable {host config} {overrides : Overrides} {path file : Bytes} {start : σ}

theorem digestStep_of_error {record : Record σ} {cause : IoFault}
    (failed : (host.files record.state).read file = .error cause) :
    (digestStep host file).run record = (.error (.filesystemAccess file cause), record) := by
  rw [digestStep, Session.bind_of_ok (Session.files_run _ _), digestOf_of_error failed]
  exact Session.bind_of_error (Session.ofExcept_run _ _)

theorem digestStep_of_ok {record : Record σ} {stretches : List Bytes}
    (readable : (host.files record.state).read file = .ok stretches) :
    (digestStep host file).run record =
      (.ok (), { record with printed := record.printed ++ digestLine stretches.flatten }) := by
  rw [digestStep, Session.bind_of_ok (Session.files_run _ _), digestOf_of_ok readable,
    Session.bind_of_ok (Session.ofExcept_run _ _), Session.print_run]
  rfl

/-- After the setup `reftest` goes in one of its ways. -/
theorem testSteps_course (overrides : Overrides) (path file : Bytes) (record : Record σ)
    (fresh : record.launches = []) (silent : record.printed = "") : ∃ result after,
      (testSteps host config path file overrides).run record = (result, after) ∧
      ReftestCourse host config overrides path file record.state result after.launches
        after.printed := by
  rw [testSteps, applyTo_showCommand, applyTo_testCommand]
  rcases host.verdict_cases (shower config overrides path) record.state with ⟨fault, failed⟩ | shown
  · rw [Session.bind_of_error (Session.runCommand_of_verdict failed)]
    refine ⟨_, _, rfl, ?_⟩
    simp only [Record.attempted_launches, Record.attempted_printed, fresh, silent]
    exact .unshown fault failed
  rw [Session.bind_of_ok (Session.runCommand_of_verdict shown)]
  rcases host.verdict_cases (tester config overrides) (shownState host config overrides path record.state)
    with ⟨fault, failed⟩ | tested
  · rw [Session.bind_of_error (Session.runCommand_of_verdict failed)]
    refine ⟨_, _, rfl, ?_⟩
    simp only [Record.attempted_launches, Record.attempted_printed, fresh, silent]
    exact .untested fault shown failed
  rw [Session.bind_of_ok (Session.runCommand_of_verdict tested)]
  cases readable : (host.files (testedState host config overrides path record.state)).read file with
  | error cause =>
    rw [digestStep_of_error readable]
    refine ⟨_, _, rfl, ?_⟩
    simp only [Record.attempted_launches, Record.attempted_printed, fresh, silent]
    exact .unread cause shown tested readable
  | ok stretches =>
    rw [digestStep_of_ok readable]
    refine ⟨_, _, rfl, ?_⟩
    simp only [Record.attempted_launches, Record.attempted_printed, fresh, silent]
    rw [String.empty_append]
    exact .digested stretches shown tested readable

theorem digestLine_ne_empty (content : Bytes) : digestLine content ≠ "" := by
  intro empty
  have held : 'm' ∈ (digestLine content).toList := by
    simp [digestLine]
  rw [empty] at held
  cases held

variable (host config overrides path file start) in
/-- A frame was shown and the reference tests were run, both in success. -/
structure Tested : Prop where
  shown : (host.attempt (shower config overrides path) start).1 = .ok ⟨0⟩
  tested : (host.attempt (tester config overrides) (shownState host config overrides path start)).1 =
    .ok ⟨0⟩

variable (host config overrides path file start) in
/-- How `reftest` goes once the renderer is set up, said of its result and its record. -/
structure TestProtocol (result : Except Failure Unit) (record : Record σ) : Prop where
  /-- A frame is shown, and then the tests are run at most once, with the same overrides. -/
  launches : record.launches = [shower config overrides path] ∨
    record.launches = [shower config overrides path, tester config overrides]
  tested_iff : record.launches = [shower config overrides path, tester config overrides] ↔
    (host.attempt (shower config overrides path) start).1 = .ok ⟨0⟩
  show_failed : ∀ fault, host.verdict (shower config overrides path) start = .error fault →
    result = .error (.ofFault fault)
  test_failed : ∀ fault, (host.attempt (shower config overrides path) start).1 = .ok ⟨0⟩ →
    host.verdict (tester config overrides) (shownState host config overrides path start) = .error fault →
    result = .error (.ofFault fault)
  read_failed : ∀ cause, Tested host config overrides path start →
    (host.files (testedState host config overrides path start)).read file = .error cause →
    result = .error (.ofFault (.filesystemAccess file cause))
  printed : ∀ stretches, Tested host config overrides path start →
    (host.files (testedState host config overrides path start)).read file = .ok stretches →
    record.printed = digestLine stretches.flatten
  ok_iff : result = .ok () ↔ Tested host config overrides path start ∧
    ∃ stretches, (host.files (testedState host config overrides path start)).read file = .ok stretches
  ok_iff_printed : result = .ok () ↔ record.printed ≠ ""

theorem ReftestCourse.protocol {result : Except Fault Unit} {record : Record σ}
    (course : ReftestCourse host config overrides path file start result record.launches
      record.printed) :
    TestProtocol host config overrides path file start (result.mapError .ofFault) record := by
  generalize launched : record.launches = launches at course
  generalize wrote : record.printed = printed at course
  cases course with
  | unshown fault failed =>
    have unshown : (host.attempt (shower config overrides path) start).1 ≠ .ok ⟨0⟩ := by
      rw [Ne, ← Host.verdict_eq_ok_iff, failed]
      exact nofun
    exact {
      launches := .inl launched
      tested_iff := by simp [launched, unshown]
      show_failed := fun _ failed' => by
        cases failed.symm.trans failed'
        rfl
      test_failed := fun _ shown => absurd shown unshown
      read_failed := fun _ done => absurd done.shown unshown
      printed := fun _ done => absurd done.shown unshown
      ok_iff := ⟨nofun, fun ⟨done, _⟩ => absurd done.shown unshown⟩
      ok_iff_printed := ⟨nofun, fun line => absurd wrote line⟩ }
  | untested fault shown failed =>
    have untested : ¬Tested host config overrides path start := by
      intro done
      cases failed.symm.trans (Host.verdict_eq_ok_iff.2 done.tested)
    exact {
      launches := .inr launched
      tested_iff := by simp [launched, Host.verdict_eq_ok_iff.1 shown]
      show_failed := fun _ failed' => by cases shown.symm.trans failed'
      test_failed := fun _ _ failed' => by
        cases failed.symm.trans failed'
        rfl
      read_failed := fun _ done => absurd done untested
      printed := fun _ done => absurd done untested
      ok_iff := ⟨nofun, fun ⟨done, _⟩ => absurd done untested⟩
      ok_iff_printed := ⟨nofun, fun line => absurd wrote line⟩ }
  | unread cause shown tested failed =>
    exact {
      launches := .inr launched
      tested_iff := by simp [launched, Host.verdict_eq_ok_iff.1 shown]
      show_failed := fun _ failed' => by cases shown.symm.trans failed'
      test_failed := fun _ _ failed' => by cases tested.symm.trans failed'
      read_failed := fun _ _ failed' => by
        cases failed.symm.trans failed'
        rfl
      printed := fun _ _ readable => by cases failed.symm.trans readable
      ok_iff := ⟨nofun, fun ⟨_, _, readable⟩ => by cases failed.symm.trans readable⟩
      ok_iff_printed := ⟨nofun, fun line => absurd wrote line⟩ }
  | digested stretches shown tested readable =>
    have done : Tested host config overrides path start :=
      ⟨Host.verdict_eq_ok_iff.1 shown, Host.verdict_eq_ok_iff.1 tested⟩
    exact {
      launches := .inr launched
      tested_iff := by simp [launched, done.shown]
      show_failed := fun _ failed' => by cases shown.symm.trans failed'
      test_failed := fun _ _ failed' => by cases tested.symm.trans failed'
      read_failed := fun _ _ failed' => by cases readable.symm.trans failed'
      printed := fun _ _ readable' => by
        cases readable.symm.trans readable'
        exact wrote
      ok_iff := ⟨fun _ => ⟨done, stretches, readable⟩, fun _ => rfl⟩
      ok_iff_printed := ⟨fun _ => wrote ▸ digestLine_ne_empty _, fun _ => rfl⟩ }

variable (host config path start) in
/-- How `reftest` goes from a state on, said of its result and its record. -/
structure ReftestProtocol (screenshot : Option Bytes) (result : Except Failure Unit)
    (record : Record σ) : Prop where
  /-- Nothing is attempted without a setup. -/
  setup_failed : ∀ fault, setup host config start = .error fault →
    result = .error (.ofFault fault) ∧ record.launches = [] ∧ record.printed = ""
  /-- The setup is the one of the files at the start. -/
  setup_ready : ∀ overrides, setup host config start = .ok overrides →
    TestProtocol host config overrides path (screenshot.getD (Bytes.ascii "screenshot.png")) start
      result record

theorem reftest_eq_bind (screenshot : Option Bytes) :
    reftest host config path screenshot =
      configure host config >>= testSteps host config path (screenshot.getD screenshotFile) := rfl

/-- **Protocol of `reftest`.** Whatever the machine does, `reftest` works out the overrides once, before
it attempts anything, and gives the same to both commands. It stops at the first step that fails, and
prints the digest of the screenshot, in one line, only if none does. -/
theorem reftest_protocol (host : Host σ) (config : Config) (path : Bytes) (screenshot : Option Bytes)
    (start : σ) :
    ReftestProtocol host config path start screenshot
      (perform host config (.reftest path screenshot) start).1
      (perform host config (.reftest path screenshot) start).2 := by
  rw [perform, act, reftest_eq_bind]
  cases ready : setup host config start with
  | error fault =>
    rw [configure_bind_of_error ready]
    refine ⟨fun other failed => ?_, fun overrides ready' => ?_⟩
    · cases ready.symm.trans failed
      exact ⟨rfl, rfl, rfl⟩
    · cases ready.symm.trans ready'
  | ok overrides =>
    let record := (Record.start start).told (setupEvents host config start)
    obtain ⟨result, after, ran, course⟩ :=
      testSteps_course overrides path (screenshot.getD screenshotFile) record rfl rfl
    rw [configure_bind_of_ok ready]
    change ReftestProtocol host config path start screenshot
      (((testSteps host config path _ overrides).run record).1.mapError .ofFault)
      ((testSteps host config path _ overrides).run record).2
    rw [ran]
    refine ⟨fun fault failed => ?_, fun other ready' => ?_⟩
    · cases ready.symm.trans failed
    · cases ready.symm.trans ready'
      exact course.protocol

end
end Offscreen.Tool
