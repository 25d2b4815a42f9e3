import Offscreen.Proofs.Directory
import Offscreen.Proofs.Reftest
import Offscreen.Proofs.Rendering
import Offscreen.Proofs.Run

/-!
# Which program is started

Every command that an action attempts is the build or the renderer with overrides from a setup
(`launches_split`). The system looks for a program with a slash in its name at that path alone, and for any
other one along a search path. So the renderer that is started is the one beside which the package was
looked up if its path holds a slash, and for a bare name it is one that the search path leads to
(`renderer_launched`).
-/

namespace Offscreen
set_option autoImplicit false

/-! ## Where a program is looked for -/

/-- The paths at which the system looks for the program of a command, in order. -/
def Command.startPaths (search : List Bytes) (command : Command) : List Bytes :=
  if slash ∈ command.program then [command.program] else search.map (Path.join · command.program)

theorem Command.startPaths_of_slash_mem {command : Command} (held : slash ∈ command.program) (search : List Bytes) :
    command.startPaths search = [command.program] :=
  if_pos held

theorem Command.startPaths_of_slash_not_mem {command : Command} (bare : slash ∉ command.program)
    (search : List Bytes) : command.startPaths search = search.map (Path.join · command.program) :=
  if_neg bare

namespace Tool

/-! ## What is attempted -/

section

variable {σ : Type} {host : Host σ} {config : Config} {start : σ}

/-- The builds that an action attempts before anything else. -/
def builders (config : Config) : Action → List Command
  | .run skipBuild features _ => builds config skipBuild features
  | .reftest .. | .env .. => []

/-- The state that an action sets the renderer up in: the one that its builds leave. -/
def setupState (host : Host σ) (config : Config) (start : σ) : Action → σ
  | .run skipBuild features _ => builtState host config skipBuild features start
  | .reftest .. | .env .. => start

/-- The renderer as it is set up from the files of a state. -/
def Renders (host : Host σ) (config : Config) (state : σ) (command : Command) : Prop :=
  ∃ overrides words, setup host config state = .ok overrides ∧ command = renderer config overrides words

theorem env_launches (platform : Option Platform) :
    (perform host config (.env platform) start).2.launches = [] := by
  rw [perform, act, env, Session.bind_of_ok (Session.files_run _ _), Session.bind_of_ok (Session.tell_run _ _)]
  cases printed : envText (host.files (Record.start start).state) config platform with
  | error fault =>
    rw [Session.bind_of_error (Session.ofExcept_run _ _)]
    rfl
  | ok text =>
    rw [Session.bind_of_ok (Session.ofExcept_run _ _), Session.print_run]
    rfl

theorem RunCourse.split {skipBuild : Bool} {features args : List Bytes} {result : Except Fault Unit}
    {launches : List Command} (course : RunCourse host config skipBuild features args start result launches) :
    ∃ rendered, launches = builds config skipBuild features ++ rendered ∧
      ∀ command ∈ rendered, Renders host config (builtState host config skipBuild features start) command := by
  cases course with
  | unbuilt fault unskipped failed => exact ⟨[], by rw [unskipped]; rfl, by simp⟩
  | unset fault built failed => exact ⟨[], by simp, by simp⟩
  | rendered overrides built ready =>
    refine ⟨_, rfl, ?_⟩
    intro command mem
    exact ⟨overrides, _, ready, List.mem_singleton.1 mem⟩

theorem ReftestCourse.rendered {overrides : Overrides} {path file : Bytes} {state : σ} {result : Except Fault Unit}
    {launches : List Command} {printed : String}
    (course : ReftestCourse host config overrides path file state result launches printed) :
    ∀ command ∈ launches, ∃ words, command = renderer config overrides words := by
  have shown : ∃ words, shower config overrides path = renderer config overrides words := ⟨_, rfl⟩
  have tested : ∃ words, tester config overrides = renderer config overrides words := ⟨_, rfl⟩
  cases course with
  | unshown fault failed => exact List.forall_mem_singleton.2 shown
  | untested | unread | digested => exact List.forall_mem_cons.2 ⟨shown, List.forall_mem_singleton.2 tested⟩

/-- Each command that is attempted is a build or a renderer that was set up after it. -/
theorem launches_split (host : Host σ) (config : Config) (action : Action) (start : σ) :
    ∃ rendered, (perform host config action start).2.launches = builders config action ++ rendered ∧
      ∀ command ∈ rendered, Renders host config (setupState host config start action) command := by
  cases action with
  | run skipBuild features args =>
    obtain ⟨result, record, ran, course, -⟩ := run_course host config skipBuild features args start
    rw [perform, act, ran]
    exact course.split
  | reftest path screenshot =>
    rw [perform, act, reftest_eq_bind]
    cases ready : setup host config start with
    | error fault =>
      rw [configure_bind_of_error ready]
      exact ⟨[], rfl, by simp⟩
    | ok overrides =>
      obtain ⟨result, after, ran, course⟩ := testSteps_course overrides path (screenshot.getD screenshotFile)
        ((Record.start start).told (setupEvents host config start)) rfl rfl
      have attempted : (testSteps host config path (screenshot.getD screenshotFile) overrides).run
        ((Record.start start).told (setupEvents host config (Record.start start).state)) = (result, after) := ran
      rw [configure_bind_of_ok ready, attempted]
      refine ⟨after.launches, rfl, ?_⟩
      intro command mem
      obtain ⟨words, same⟩ := course.rendered command mem
      exact ⟨overrides, words, ready, same⟩
  | env platform => exact ⟨[], env_launches platform, by simp⟩

/-! ## What is started -/

/-- Which program a command starts, and how it lies to the directory that the package was looked up in. -/
structure Launched (search : List Bytes) (files : Files) (config : Config) (command : Command) : Prop where
  program : command.program = config.wrenchBin
  /-- The package was found in the directory of the binary. -/
  found : ∃ output name, Lookup.require files Rendering.package config.wrenchBin = .ok output ∧
    output = Path.join (Path.join (Lookup.binaryDir config.wrenchBin) (Bytes.ascii "build")) name
  /-- With a slash in its path, the binary itself is started and no other program. -/
  slashed : slash ∈ config.wrenchBin → command.startPaths search = [config.wrenchBin]
  /-- A binary with a name of its own lies in the directory where the package was found. -/
  beside : ∀ front name, config.wrenchBin = front ++ slash :: name → Path.Proper name →
    Path.components config.wrenchBin = Path.components (Lookup.binaryDir config.wrenchBin) ++ [.name name]
  /-- A bare name was taken to lie in the current directory, but is looked for along the search path. -/
  bare : slash ∉ config.wrenchBin → Lookup.binaryDir config.wrenchBin = [dot] ∧
    command.startPaths search = search.map (Path.join · config.wrenchBin)

theorem Renders.launched {command : Command} {state : σ} (search : List Bytes)
    (supported : config.platform.supported = true) (h : Renders host config state command) :
    Launched search (host.files state) config command := by
  obtain ⟨overrides, words, ready, rfl⟩ := h
  obtain ⟨output, required, -⟩ := Rendering.configure_eq_ok supported ready
  obtain ⟨name, -, below⟩ := Lookup.belongs_of_require required
  refine ⟨rfl, ⟨output, name.bytes, required, ?_⟩, ?_, ?_, ?_⟩
  · rw [below]
    exact (Lookup.join_buildDir config.wrenchBin name).symm
  · intro held
    exact Command.startPaths_of_slash_mem held search
  · intro front name path proper
    rw [path]
    exact Lookup.components_binaryDir proper
  · intro bare
    exact ⟨Lookup.binaryDir_of_slash_not_mem bare, Command.startPaths_of_slash_not_mem bare search⟩

/-- **What is started.** On a platform with a setup, an action that attempts the renderer starts the binary in
the directory where the package was found, unless the binary is given by a bare name: that is looked for
along the search path. -/
theorem renderer_launched (host : Host σ) (config : Config) (action : Action) (start : σ) (search : List Bytes)
    (supported : config.platform.supported = true) :
    ∃ rendered, (perform host config action start).2.launches = builders config action ++ rendered ∧
      ∀ command ∈ rendered,
        Launched search (host.files (setupState host config start action)) config command := by
  obtain ⟨rendered, split, renders⟩ := launches_split host config action start
  refine ⟨rendered, split, ?_⟩
  intro command mem
  exact (renders command mem).launched search supported

/-- Without a build, `run` attempts nothing but the renderer. -/
theorem run_of_skipped {args : List Bytes} {overrides : Overrides} (ready : setup host config start = .ok overrides) :
    (perform host config (.run true [] args) start).2.launches =
      [renderer config overrides (Bytes.ascii "-h" :: args)] := by
  have built : Built host config true [] start := .inl rfl
  obtain ⟨record, stepped, left, launched, -⟩ := buildStep_of_built built
  have unchanged : record.state = start := left
  rw [← unchanged] at ready
  rw [perform, act, run_eq_bind, Session.bind_of_ok stepped, renderStep_of_ok ready,
    Record.attempted_launches, Record.told_launches, launched]
  rfl

end

/-- A machine on which every program ends in success, with one output of the package in a directory. -/
def still (dir : Bytes) : Host Unit where
  files _ := Lookup.oneOutput dir
  launch _ state := (.ok ⟨0⟩, state)

/-- A configuration for Linux. -/
def onLinux (binary : Bytes) : Config := ⟨binary, Bytes.ascii "cargo", .linux⟩

theorem exists_launch_still {dir output binary : Bytes} (free : colon ∉ output)
    (required : Lookup.require (Lookup.oneOutput dir) Rendering.package binary = .ok output) :
    ∃ overrides, (perform (still dir) (onLinux binary) (.run true [] []) ()).2.launches =
      [renderer (onLinux binary) overrides [Bytes.ascii "-h"]] := by
  have supported : (onLinux binary).platform.supported = true := rfl
  obtain ⟨overrides, configured, -⟩ := Rendering.exists_configure supported required free
  exact ⟨overrides, run_of_skipped configured⟩

/-- A path with slashes is the path that is started. -/
theorem renderer_launched_beside_package :
    (onLinux (Bytes.ascii "/r/wrench")).platform.supported = true ∧
      ∃ rendered, rendered ≠ [] ∧
        rendered = (perform (still (Bytes.ascii "/r/build")) (onLinux (Bytes.ascii "/r/wrench"))
          (.run true [] []) ()).2.launches ∧
        ∀ command ∈ rendered, Launched [Bytes.ascii "/usr/bin"] (Lookup.oneOutput (Bytes.ascii "/r/build"))
          (onLinux (Bytes.ascii "/r/wrench")) command := by
  have supported : (onLinux (Bytes.ascii "/r/wrench")).platform.supported = true := rfl
  have required : Lookup.require (Lookup.oneOutput (Bytes.ascii "/r/build")) Rendering.package
    (Bytes.ascii "/r/wrench") = .ok (Bytes.ascii "/r/build/osmesa-src-7") := by decide +kernel
  obtain ⟨overrides, launched⟩ := exists_launch_still (by decide) required
  obtain ⟨rendered, split, all⟩ := renderer_launched (still (Bytes.ascii "/r/build"))
    (onLinux (Bytes.ascii "/r/wrench")) (.run true [] []) () [Bytes.ascii "/usr/bin"] supported
  have only : builders (onLinux (Bytes.ascii "/r/wrench")) (.run true [] []) ++ rendered = rendered := rfl
  rw [only] at split
  refine ⟨supported, rendered, ?_, split.symm, ?_⟩
  · rw [← split, launched]
    exact List.cons_ne_nil _ _
  · intro command mem
    exact all command mem

/-- The binary is given by a bare name, and the package is found in the current directory. A program of that
name on the search path is started. -/
theorem launched_along_search_path :
    Lookup.require (Lookup.oneOutput (Bytes.ascii "./build")) Rendering.package (Bytes.ascii "wrench") =
        .ok (Bytes.ascii "./build/osmesa-src-7") ∧
      ∃ command,
        [command] = (perform (still (Bytes.ascii "./build")) (onLinux (Bytes.ascii "wrench"))
          (.run true [] []) ()).2.launches ∧
        slash ∉ command.program ∧ command.startPaths [Bytes.ascii "/usr/bin"] = [Bytes.ascii "/usr/bin/wrench"] := by
  have required : Lookup.require (Lookup.oneOutput (Bytes.ascii "./build")) Rendering.package (Bytes.ascii "wrench") =
    .ok (Bytes.ascii "./build/osmesa-src-7") := by decide +kernel
  obtain ⟨overrides, launched⟩ := exists_launch_still (by decide) required
  have bare : slash ∉ Bytes.ascii "wrench" := by decide
  exact ⟨required, _, launched.symm, bare, Command.startPaths_of_slash_not_mem bare [Bytes.ascii "/usr/bin"]⟩

end Tool
end Offscreen
