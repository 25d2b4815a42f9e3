import Offscreen.Invocation
import Offscreen.Proofs.CommandLine.Precedence

/-!
# What verbosity changes

A flag in front of a line that has not raised it leaves everything else that the line asks for as it was
(`Line.request?_led`). A request is carried out in the same way whether it is verbose or not: verbosity chooses
a filter for the log, and whether there is a filter does not depend on it (`Filter.isSome_chosen`). So an
invocation with `-v` in front of its words does the same work as one without, and may show other lines of the
log (`verbosity_changes_lines_only`).
-/

namespace Offscreen
set_option autoImplicit false

/-! ## A flag in front of a line -/

namespace CommandLine
variable {environment : Variables} {items : List Item} {words : List Bytes} {scope : Scope} {line : Line}
  {flag : Flag} {letter : UInt8} {request : Request}

/-- What a scope was given is still proper with one more flag in front of it. -/
theorem Given.proper_of_lettered (proper : (Given.of items words).Proper scope) (fresh : flag ∉ flagsIn items)
    (kept : flag ≠ .help ∧ flag ≠ .version) : (Given.of (.lettered flag letter :: items) words).Proper scope where
  accepted := proper.accepted
  once := proper.once
  raised := List.nodup_cons.2 ⟨fresh, proper.raised⟩
  kept := List.forall_mem_cons.2 ⟨kept, proper.kept⟩
  text := proper.text
  room := proper.room

/-- A line with one more item in front of it. -/
def Line.led (line : Line) (item : Item) : Line :=
  { line with outer := item :: line.outer }

theorem Line.Spelt.led {item : Item} (spelt : line.Spelt words) (fits : item.Fits .tool) :
    (line.led item).Spelt (item.words ++ words) := by
  obtain ⟨outer, named, inner⟩ := spelt
  rw [← List.append_assoc]
  exact .intro (List.forall_mem_cons.2 ⟨fits, outer⟩) named inner

theorem Line.Proper.led (proper : line.Proper environment) (fresh : flag ∉ flagsIn line.outer)
    (kept : flag ≠ .help ∧ flag ≠ .version) : (line.led (.lettered flag letter)).Proper environment where
  outer := Given.proper_of_lettered proper.outer fresh kept
  inner := proper.inner
  allowed := proper.allowed

/-- A line that is made verbose asks for the same action with the same settings. -/
theorem Line.request?_led (asked : line.request? environment = some request) :
    (line.led (.lettered .verbose letter)).request? environment = some { request with verbose := true } := by
  obtain ⟨action, found, rfl⟩ := Option.map_eq_some_iff.1 asked
  exact Option.map_eq_some_iff.2 ⟨action, found, rfl⟩

/-- The word that makes the tool verbose. -/
def verboseWord : Bytes := Bytes.ascii "-v"

theorem words_verbose : (Item.lettered .verbose 0x76).words = [verboseWord] := by decide

theorem Request.read_verbose (read : Request.read environment words = .ok request) (spelt : line.Spelt words)
    (quiet : .verbose ∉ flagsIn line.outer) :
    Request.read environment (verboseWord :: words) = .ok { request with verbose := true } := by
  obtain ⟨line', spelt', proper, asked⟩ := Request.read_eq_ok_iff.1 read
  obtain rfl := spelt'.unique spelt
  have fits : (Item.lettered .verbose 0x76).Fits .tool := ⟨by decide, rfl⟩
  have led := spelt.led fits
  rw [words_verbose, List.singleton_append] at led
  exact Request.read_eq_ok_iff.2 ⟨_, led, proper.led quiet (by decide), Line.request?_led asked⟩

end CommandLine

/-! ## What an invocation comes to -/

/-- Whether there is a filter for the log does not depend on verbosity. -/
theorem Filter.isSome_chosen (environment : Variables) (verbose other : Bool) :
    (Filter.chosen environment verbose).isSome = (Filter.chosen environment other).isSome := by
  unfold Filter.chosen
  split <;> rfl

/-- Two reports that differ in the lines of the log at most. -/
structure Report.SameWork (report other : Report) : Prop where
  outcome : report.outcome = other.outcome
  printed : report.printed = other.printed
  launches : report.launches = other.launches

namespace Invocation
variable {σ : Type} {host : Variables → Host σ} {environment : Variables} {words : List Bytes}
  {request : CommandLine.Request} {state : σ}

/-- The variables after a file of variables was loaded, if there is one. -/
def loaded? (file : Option Bytes) (environment : Variables) : Option Variables :=
  match file with
  | none => some environment
  | some content => EnvFile.load environment content

theorem runWith_of_loaded {file : Option Bytes} {after : Variables}
    (loaded : loaded? file environment = some after) (words : List Bytes) (state : σ) :
    runWith host file environment words state = run host after words state := by
  cases file with
  | none =>
    obtain rfl := Option.some.inj loaded
    rfl
  | some content =>
    have load : EnvFile.load environment content = some after := loaded
    simp only [runWith, load]

theorem run_of_read {filter : Filter} (read : CommandLine.Request.read environment words = .ok request)
    (chosen : Filter.chosen environment request.verbose = some filter) (state : σ) :
    run host environment words state = carryOut (host environment) filter request state := by
  simp only [run, read, chosen]

theorem run_of_unfiltered (read : CommandLine.Request.read environment words = .ok request)
    (chosen : Filter.chosen environment request.verbose = none) (state : σ) :
    run host environment words state = (brokenOff, state) := by
  simp only [run, read, chosen]

/-- Two requests that differ in their verbosity are carried out in the same way. -/
theorem sameWork_of_read {verbose : Bool} {words' : List Bytes}
    (read : CommandLine.Request.read environment words = .ok request)
    (read' : CommandLine.Request.read environment words' = .ok { request with verbose := verbose }) (state : σ) :
    (run host environment words' state).1.SameWork (run host environment words state).1 ∧
      (run host environment words' state).2 = (run host environment words state).2 := by
  have alike := Filter.isSome_chosen environment verbose request.verbose
  cases chosen : Filter.chosen environment request.verbose with
  | none =>
    rw [chosen, Option.isSome_none, Option.isSome_eq_false_iff, Option.isNone_iff_eq_none] at alike
    rw [run_of_unfiltered read chosen, run_of_unfiltered read' alike]
    exact ⟨⟨rfl, rfl, rfl⟩, rfl⟩
  | some filter =>
    rw [chosen, Option.isSome_some, Option.isSome_iff_exists] at alike
    obtain ⟨other, chosen'⟩ := alike
    rw [run_of_read read chosen, run_of_read read' chosen']
    exact ⟨⟨rfl, rfl, rfl⟩, rfl⟩

/-- **Verbosity does not interfere.** With `-v` in front of words that have not made the tool verbose before the
name of the action, the same action is read with the same settings, and the invocation does the same work: it
attempts the same commands, prints the same text, leaves the same machine and exits with the same status. Only
the lines of the log can differ. -/
theorem verbosity_changes_lines_only (host : Variables → Host σ) (file : Option Bytes)
    (environment after : Variables) (words : List Bytes) (line : CommandLine.Line)
    (request : CommandLine.Request) (state : σ) (loaded : loaded? file environment = some after)
    (read : CommandLine.Request.read after words = .ok request) (spelt : line.Spelt words)
    (quiet : .verbose ∉ CommandLine.flagsIn line.outer) :
    CommandLine.Request.read after (Bytes.ascii "-v" :: words) = .ok { request with verbose := true } ∧
      (runWith host file environment (Bytes.ascii "-v" :: words) state).1.SameWork
        (runWith host file environment words state).1 ∧
      (runWith host file environment (Bytes.ascii "-v" :: words) state).1.outcome.exitStatus =
        (runWith host file environment words state).1.outcome.exitStatus ∧
      (runWith host file environment (Bytes.ascii "-v" :: words) state).2 =
        (runWith host file environment words state).2 := by
  have read' : CommandLine.Request.read after (Bytes.ascii "-v" :: words) = .ok { request with verbose := true } :=
    CommandLine.Request.read_verbose read spelt quiet
  obtain ⟨same, left⟩ := sameWork_of_read read read' state
  rw [runWith_of_loaded loaded, runWith_of_loaded loaded]
  exact ⟨read', same, congrArg Outcome.exitStatus same.outcome, left⟩

/-- A `-v` that is handed on makes nothing verbose, so `-v` can stand in front of it: the build is attempted, and
the missing package is told by the status 69, with both. -/
theorem verbosity_changes_lines_only_of_handed_on :
    let silent : Files :=
      ⟨fun _ => .error .notFound, fun _ => .error .notFound, fun _ => .error .notFound⟩
    let host : Variables → Host Unit := fun _ => ⟨fun _ => silent, fun _ _ => (.ok ⟨0⟩, ())⟩
    let words := ["run", "--features=a", "--", "-v"].map Bytes.ascii
    let request : CommandLine.Request := ⟨Bytes.ascii "../target/release/wrench", Bytes.ascii "cargo", false,
      .run false [Bytes.ascii "a"] [Bytes.ascii "-v"]⟩
    CommandLine.Request.read .empty words = .ok request ∧
      CommandLine.Request.read .empty (Bytes.ascii "-v" :: words) = .ok { request with verbose := true } ∧
      (runWith host none .empty (Bytes.ascii "-v" :: words) ()).1.launches =
        [Tool.buildCommand (Bytes.ascii "cargo") [Bytes.ascii "a"]] ∧
      (runWith host none .empty (Bytes.ascii "-v" :: words) ()).1.outcome.exitStatus = 69 := by
  intro silent host words request
  have read : CommandLine.Request.read .empty words = .ok request := rfl
  have known : CommandLine.Key.features ∈ CommandLine.Scope.run.keys := by decide
  have bare : ∀ item ∈ ([] : List CommandLine.Item), item.Fits .tool := nofun
  have fits : ∀ item ∈ [CommandLine.Item.joined .features (Bytes.ascii "a")], item.Fits .run :=
    List.forall_mem_singleton.2 known
  have spelt := CommandLine.spelt_literal bare fits [Bytes.ascii "-v"]
  obtain ⟨read', same, status, -⟩ := verbosity_changes_lines_only host none .empty .empty words _ request ()
    rfl read spelt nofun
  exact ⟨read, read', same.launches.trans rfl, status.trans rfl⟩

end Invocation
end Offscreen
