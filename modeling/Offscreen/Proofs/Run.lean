import Offscreen.Proofs.Steps

/-!
# How `run` goes

`run` attempts the build, unless that is skipped, and then the renderer. The renderer is set up from
the files that the build has left, whatever it did to them, and is attempted only if the build and the
setup went well; so `run` ends as its first failing step does (`run_protocol`).
-/

namespace Offscreen.Tool
set_option autoImplicit false

section

variable {σ : Type} (host : Host σ) (config : Config)

/-- The commands that come before the renderer. -/
def builds (skipBuild : Bool) (features : List Bytes) : List Command :=
  if skipBuild then [] else [builder config features]

/-- The state that the renderer is set up in: the one that the build leaves, if there is a build. -/
def builtState (skipBuild : Bool) (features : List Bytes) (start : σ) : σ :=
  if skipBuild then start else host.after (builder config features) start

/-- The build is skipped or ends in success. -/
def Built (skipBuild : Bool) (features : List Bytes) (start : σ) : Prop :=
  skipBuild = true ∨ (host.attempt (builder config features) start).1 = .ok ⟨0⟩

/-- The ways in which `run` goes, each with its end and with the commands that it attempts. -/
inductive RunCourse (skipBuild : Bool) (features args : List Bytes) (start : σ) :
    Except Fault Unit → List Command → Prop where
  | unbuilt (fault : Fault) (unskipped : skipBuild = false)
      (failed : host.verdict (builder config features) start = .error fault) :
      RunCourse skipBuild features args start (.error fault) [builder config features]
  | unset (fault : Fault) (built : Built host config skipBuild features start)
      (failed : setup host config (builtState host config skipBuild features start) = .error fault) :
      RunCourse skipBuild features args start (.error fault) (builds config skipBuild features)
  | rendered (overrides : Overrides) (built : Built host config skipBuild features start)
      (ready : setup host config (builtState host config skipBuild features start) = .ok overrides) :
      RunCourse skipBuild features args start
        (host.verdict (renderer config overrides (Bytes.ascii "-h" :: args))
          (builtState host config skipBuild features start))
        (builds config skipBuild features ++ [renderer config overrides (Bytes.ascii "-h" :: args)])

/-- The build, or the note that it is skipped. -/
def buildStep (skipBuild : Bool) (features : List Bytes) : Session σ Unit :=
  if skipBuild then Session.tell [.buildSkipped]
  else Session.runCommand host (buildCommand config.cargo features)

/-- What `run` does after the build. -/
def renderStep (args : List Bytes) : Session σ Unit := do
  let overrides ← configure host config
  Session.runCommand host (overrides.applyTo (renderCommand config args))

variable {host config} {skipBuild : Bool} {features args : List Bytes} {start : σ}

theorem run_eq_bind :
    run host config skipBuild features args =
      buildStep host config skipBuild features >>= fun _ => renderStep host config args := by
  cases skipBuild <;> rfl

theorem not_built_iff : ¬Built host config skipBuild features start ↔
    skipBuild = false ∧ ∃ fault, host.verdict (builder config features) start = .error fault := by
  rw [Built, ← Host.verdict_eq_ok_iff, not_or, Bool.not_eq_true]
  rcases host.verdict_cases (builder config features) start with ⟨fault, failed⟩ | ok
  · simp [failed]
  · simp [ok]

theorem buildStep_of_skipped :
    buildStep host config true features = Session.tell [.buildSkipped] := rfl

theorem buildStep_of_unskipped :
    buildStep host config false features = Session.runCommand host (builder config features) := by
  rw [buildStep, if_neg Bool.false_ne_true, buildCommand_eq]

/-- A build that is skipped or ends in success leaves the state that the renderer is set up in. -/
theorem buildStep_of_built (built : Built host config skipBuild features start) :
    ∃ record, (buildStep host config skipBuild features).run (.start start) = (.ok (), record) ∧
      record.state = builtState host config skipBuild features start ∧
      record.launches = builds config skipBuild features ∧ record.printed = "" := by
  cases skipBuild with
  | true =>
    rw [buildStep_of_skipped]
    exact ⟨_, Session.tell_run _ _, rfl, rfl, rfl⟩
  | false =>
    have ok : host.verdict (builder config features) start = .ok () :=
      Host.verdict_eq_ok_iff.2 (built.resolve_left Bool.false_ne_true)
    rw [buildStep_of_unskipped]
    exact ⟨_, Session.runCommand_of_verdict ok, rfl, rfl, rfl⟩

theorem renderStep_of_ok {record : Record σ} {overrides : Overrides}
    (ready : setup host config record.state = .ok overrides) :
    (renderStep host config args).run record =
      (host.verdict (renderer config overrides (Bytes.ascii "-h" :: args)) record.state,
        (record.told (setupEvents host config record.state)).attempted host
          (renderer config overrides (Bytes.ascii "-h" :: args))) := by
  rw [renderStep, configure_bind_of_ok ready, Session.runCommand_run, applyTo_renderCommand]
  rfl

/-- Every run goes in one of its ways, and prints nothing. -/
theorem run_course (host : Host σ) (config : Config) (skipBuild : Bool) (features args : List Bytes)
    (start : σ) : ∃ result record,
      (run host config skipBuild features args).run (.start start) = (result, record) ∧
      RunCourse host config skipBuild features args start result record.launches ∧
      record.printed = "" := by
  rw [run_eq_bind]
  by_cases built : Built host config skipBuild features start
  · obtain ⟨record, stepped, left, launched, silent⟩ := buildStep_of_built built
    rw [Session.bind_of_ok stepped]
    cases ready : setup host config (builtState host config skipBuild features start) with
    | error fault =>
      rw [renderStep, configure_bind_of_error (left ▸ ready)]
      refine ⟨_, _, rfl, ?_, silent⟩
      rw [Record.told_launches, launched]
      exact .unset fault built ready
    | ok overrides =>
      rw [renderStep_of_ok (left ▸ ready)]
      refine ⟨_, _, rfl, ?_, silent⟩
      rw [Record.attempted_launches, Record.told_launches, launched, left]
      exact .rendered overrides built ready
  · obtain ⟨rfl, fault, failed⟩ := not_built_iff.1 built
    rw [buildStep_of_unskipped, Session.bind_of_error (Session.runCommand_of_verdict failed)]
    exact ⟨_, _, rfl, .unbuilt fault rfl failed, rfl⟩

variable (host config skipBuild features args start) in
/-- How `run` goes from a state on, said of its result and its record. -/
structure RunProtocol (result : Except Failure Unit) (record : Record σ) : Prop where
  /-- The build, unless it is skipped, and then at most the renderer. -/
  launches : record.launches = builds config skipBuild features ∨ ∃ overrides,
    record.launches =
      builds config skipBuild features ++ [renderer config overrides (Bytes.ascii "-h" :: args)]
  rendered_iff : ∀ overrides,
    record.launches =
        builds config skipBuild features ++ [renderer config overrides (Bytes.ascii "-h" :: args)] ↔
      Built host config skipBuild features start ∧
        setup host config (builtState host config skipBuild features start) = .ok overrides
  build_failed : ∀ fault, skipBuild = false →
    host.verdict (builder config features) start = .error fault → result = .error (.ofFault fault)
  setup_failed : ∀ fault, Built host config skipBuild features start →
    setup host config (builtState host config skipBuild features start) = .error fault →
    result = .error (.ofFault fault)
  render_failed : ∀ overrides fault, Built host config skipBuild features start →
    setup host config (builtState host config skipBuild features start) = .ok overrides →
    host.verdict (renderer config overrides (Bytes.ascii "-h" :: args))
      (builtState host config skipBuild features start) = .error fault →
    result = .error (.ofFault fault)
  ok_iff : result = .ok () ↔ Built host config skipBuild features start ∧ ∃ overrides,
    setup host config (builtState host config skipBuild features start) = .ok overrides ∧
      (host.attempt (renderer config overrides (Bytes.ascii "-h" :: args))
        (builtState host config skipBuild features start)).1 = .ok ⟨0⟩
  silent : record.printed = ""

theorem RunCourse.protocol {result : Except Fault Unit} {record : Record σ}
    (course : RunCourse host config skipBuild features args start result record.launches)
    (silent : record.printed = "") :
    RunProtocol host config skipBuild features args start (result.mapError .ofFault) record := by
  generalize launched : record.launches = launches at course
  cases course with
  | unbuilt fault unskipped failed =>
    have unbuilt : ¬Built host config skipBuild features start := not_built_iff.2 ⟨unskipped, fault, failed⟩
    have builds : builds config skipBuild features = [builder config features] := by rw [unskipped]; rfl
    rw [← builds] at launched
    refine ⟨.inl launched, fun overrides => ?_, fun other _ failed' => ?_,
      fun _ built => absurd built unbuilt, fun _ _ built => absurd built unbuilt, ?_, silent⟩
    · simp [launched, unbuilt]
    · cases failed.symm.trans failed'
      rfl
    · exact ⟨nofun, fun ⟨built, _⟩ => absurd built unbuilt⟩
  | unset fault built failed =>
    refine ⟨.inl launched, fun overrides => ?_, fun other unskipped failed' => ?_,
      fun _ _ failed' => ?_, fun _ _ _ ready => ?_, ?_, silent⟩
    · simp [launched, failed]
    · exact absurd built (not_built_iff.2 ⟨unskipped, other, failed'⟩)
    · cases failed.symm.trans failed'
      rfl
    · cases failed.symm.trans ready
    · exact ⟨nofun, fun ⟨_, _, ready, _⟩ => by cases failed.symm.trans ready⟩
  | rendered overrides built ready =>
    refine ⟨.inr ⟨overrides, launched⟩, fun other => ?_, fun other unskipped failed' => ?_,
      fun _ _ failed' => ?_, fun _ _ _ ready' failed' => ?_, ?_, silent⟩
    · rw [launched, ready]
      constructor
      · intro same
        have last := List.singleton_inj.1 (List.append_cancel_left same)
        exact ⟨built, congrArg _ (renderer_inj last)⟩
      · rintro ⟨-, same⟩
        cases same
        rfl
    · exact absurd built (not_built_iff.2 ⟨unskipped, other, failed'⟩)
    · cases ready.symm.trans failed'
    · cases ready.symm.trans ready'
      rw [failed']
      rfl
    · rw [mapError_eq_ok_iff, Host.verdict_eq_ok_iff]
      constructor
      · intro ok
        exact ⟨built, overrides, ready, ok⟩
      · rintro ⟨-, other, ready', ok⟩
        cases ready.symm.trans ready'
        exact ok

/-- **Protocol of `run`.** Whatever the machine does, `run` attempts the build, unless it is skipped,
and then the renderer with the overrides that the files call for after the build. It stops at the
first step that fails, and fails as that step does. -/
theorem run_protocol (host : Host σ) (config : Config) (skipBuild : Bool) (features args : List Bytes)
    (start : σ) :
    RunProtocol host config skipBuild features args start
      (perform host config (.run skipBuild features args) start).1
      (perform host config (.run skipBuild features args) start).2 := by
  obtain ⟨result, record, ran, course, silent⟩ := run_course host config skipBuild features args start
  have performed : perform host config (.run skipBuild features args) start =
      (result.mapError .ofFault, record) := by
    rw [perform, act, ran]
  rw [performed]
  exact course.protocol silent

end
end Offscreen.Tool
