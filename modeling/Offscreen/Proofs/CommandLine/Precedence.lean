import Offscreen.Proofs.CommandLine.PassThrough

/-!
# Which setting is taken

An option that was given to the action is stronger than the same option given to the tool, that is
stronger than the variable, and the variable is stronger than the default
(`Request.read_precedence`). Only items count: neither values nor words that are handed on are read as
options, however they look.
-/

namespace Offscreen.CommandLine
set_option autoImplicit false

variable {environment : Variables} {words : List Bytes} {request : Request}

/-- What may be given once stands among some items once at most. -/
def SingleIn (items : List Item) : Prop :=
  (∀ key, key ≠ .features → (valuesIn key items).length ≤ 1) ∧ (flagsIn items).Nodup

theorem Key.repeats_eq_false_iff {key : Key} : key.repeats = false ↔ key ≠ .features := by
  cases key <;> decide

theorem Given.Proper.singleIn {items : List Item} {scope : Scope} (h : (Given.of items words).Proper scope) :
    SingleIn items := by
  refine ⟨fun key other => ?_, h.raised⟩
  have single := h.once key (Key.repeats_eq_false_iff.2 other)
  rwa [Given.valuesOf_of] at single

theorem Given.raised_of {items : List Item} {flag : Flag} :
    (Given.of items words).raised flag = true ↔ flag ∈ flagsIn items := by
  rw [Given.raised, Given.flags_of]
  exact decide_eq_true_iff

theorem Line.verbose_iff {line : Line} (h : line.request? environment = some request) :
    request.verbose = true ↔ .verbose ∈ flagsIn line.outer ∨ .verbose ∈ flagsIn line.inner := by
  obtain ⟨action, -, rfl⟩ := Option.map_eq_some_iff.1 h
  rw [Bool.or_eq_true]
  exact or_congr Given.raised_of Given.raised_of

/-- The values of a line, by their strength. -/
theorem Line.values_of_request? {line : Line} (h : line.request? environment = some request) :
    request.wrenchBin = Fallback.wrenchBin.value environment line.outerGiven line.innerGiven ∧
      request.cargo = Fallback.cargo.value environment line.outerGiven line.innerGiven := by
  obtain ⟨action, -, rfl⟩ := Option.map_eq_some_iff.1 h
  exact ⟨rfl, rfl⟩

/-- The words of a request are spelt by one line. The items of the line decide its settings, the inner
ones before the outer ones and these before a variable; what may be given once was given once to each
scope; and the words that `run` hands on are no items. -/
theorem Request.read_precedence (h : Request.read environment words = .ok request) :
    ∃ line : Line, line.Spelt words ∧ (∀ other : Line, other.Spelt words → other = line) ∧
      request.wrenchBin = ((valuesIn .wrenchBin line.inner).head?.or
        ((valuesIn .wrenchBin line.outer).head?.or (environment.get? (Bytes.ascii "WRENCH_BIN")))).getD
          (Bytes.ascii "../target/release/wrench") ∧
      request.cargo = ((valuesIn .cargo line.inner).head?.or
        ((valuesIn .cargo line.outer).head?.or (environment.get? (Bytes.ascii "CARGO")))).getD
          (Bytes.ascii "cargo") ∧
      (request.verbose = true ↔ .verbose ∈ flagsIn line.outer ∨ .verbose ∈ flagsIn line.inner) ∧
      SingleIn line.outer ∧ SingleIn line.inner ∧
      ∀ skipBuild features args, request.action = .run skipBuild features args → line.words = args ∧
        ∃ mark, (mark = [] ∨ mark = [twoHyphens]) ∧
          words = wordsOf line.outer ++ Bytes.ascii "run" :: (wordsOf line.inner ++ mark ++ args) := by
  obtain ⟨line, spelt, proper, asked⟩ := Request.read_eq_ok_iff.1 h
  obtain ⟨wrenchBin, cargo⟩ := Line.values_of_request? asked
  refine ⟨line, spelt, fun other spelt' => spelt'.unique spelt, wrenchBin, cargo, Line.verbose_iff asked,
    proper.outer.singleIn, proper.inner.singleIn, ?_⟩
  intro skipBuild features args action
  obtain ⟨-, plain⟩ := Line.scope_of_run asked action
  obtain ⟨outer, zone, mark, rfl, fits, ends, -, inner, -, -⟩ := Request.run_line h action
  have apart : Line.Spelt ⟨outer, .run, zone, args⟩ (runLine outer zone (mark ++ args)) :=
    .intro fits runWord_mem (by rw [← List.append_assoc]; exact inner)
  obtain rfl := spelt.unique apart
  exact ⟨plain, mark, ends, by rw [runLine, List.append_assoc]; rfl⟩

/-- In `--cargo run run --wrench-bin=a x --cargo=y` the first `run` is a value, and the last word is handed
on: the build program is `run`, and not that of the variable. -/
theorem Request.read_precedence_between_scopes :
    let environment : Variables := ByteMap.empty.insert (Bytes.ascii "CARGO") (Bytes.ascii "ninja")
    let words := ["--cargo", "run", "run", "--wrench-bin=a", "x", "--cargo=y"].map Bytes.ascii
    let request : Request := ⟨Bytes.ascii "a", Bytes.ascii "run", false,
      .run false standardFeatures (["x", "--cargo=y"].map Bytes.ascii)⟩
    Request.read environment words = .ok request ∧ ∃ line : Line, line.Spelt words ∧
      line.words = ["x", "--cargo=y"].map Bytes.ascii ∧
      some request.cargo = ((valuesIn .cargo line.inner).head?.or
        ((valuesIn .cargo line.outer).head?.or (some (Bytes.ascii "ninja")))) := by
  intro environment words request
  have read : Request.read environment words = .ok request := rfl
  obtain ⟨line, spelt, -, -, cargo, -, -, -, handed⟩ := Request.read_precedence read
  obtain ⟨plain, -⟩ := handed _ _ _ rfl
  refine ⟨read, line, spelt, plain, ?_⟩
  have known : environment.get? (Bytes.ascii "CARGO") = some (Bytes.ascii "ninja") := rfl
  rw [cargo, known]
  cases (valuesIn .cargo line.inner).head? <;> cases (valuesIn .cargo line.outer).head? <;> rfl

end Offscreen.CommandLine
