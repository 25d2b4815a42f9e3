import Offscreen.Proofs.CommandLine.Request

/-!
# What `run` hands on

The words that `run` hands on stand at the end of its command line as they are handed on, and only
items and perhaps two hyphens stand between them and the name of the action. Nothing else that is asked
for depends on them: any other words that are text could stand in their place, but for the first of
them where no two hyphens precede it (`Request.run_hands_on`).
-/

namespace Offscreen.CommandLine
set_option autoImplicit false

variable {environment : Variables} {outer zone : List Item} {words other : List Bytes} {scope : Scope}
  {request : Request} {skipBuild : Bool} {features args : List Bytes}

/-! ## The words of `run` -/

/-- The word that names `run`. -/
def runWord : Bytes := Bytes.ascii "run"

theorem runWord_mem : (runWord, Scope.run) ∈ actionNames := List.mem_cons_self

theorem eq_runWord {name : Bytes} (h : (name, Scope.run) ∈ actionNames) : name = runWord := by
  simpa [actionNames, runWord] using h

theorem Given.proper_run_iff : (Given.of zone words).Proper .run ↔
    (Given.of zone []).Proper .run ∧ ∀ word ∈ words, Utf8.isText word = true := by
  have split : Given.of zone words = (Given.of zone []).extended [] words := by
    simp [Given.of, Given.extended_extended]
  constructor
  · intro h
    refine ⟨?_, fun word mem => h.text word (List.mem_append_right _ mem)⟩
    rw [split] at h
    exact h.of_extended
  · rintro ⟨proper, text⟩
    rw [split]
    exact proper.extended_words text trivial

theorem Line.proper_run_iff : Line.Proper environment ⟨outer, .run, zone, words⟩ ↔
    Line.Proper environment ⟨outer, .run, zone, []⟩ ∧ ∀ word ∈ words, Utf8.isText word = true := by
  constructor
  · rintro ⟨proper, proper', allowed⟩
    obtain ⟨without, text⟩ := Given.proper_run_iff.1 proper'
    exact ⟨⟨proper, without, allowed⟩, text⟩
  · rintro ⟨⟨proper, without, allowed⟩, text⟩
    exact ⟨proper, Given.proper_run_iff.2 ⟨without, text⟩, allowed⟩

/-- The words are all that the request of a line with `run` takes from them. -/
theorem Line.request?_run_words
    (h : Line.request? environment ⟨outer, .run, zone, words⟩ = some request) :
    ∃ skipBuild features, request.action = .run skipBuild features words ∧ ∀ other,
      Line.request? environment ⟨outer, .run, zone, other⟩ =
        some { request with action := .run skipBuild features other } := by
  cases h
  exact ⟨_, _, rfl, fun _ => rfl⟩

/-- A line whose action is to run has the scope of `run`. -/
theorem Line.scope_of_run {line : Line} (h : line.request? environment = some request)
    (action : request.action = .run skipBuild features args) : line.scope = .run ∧ line.words = args := by
  obtain ⟨outer, scope, inner, words⟩ := line
  obtain ⟨asked, found, rfl⟩ := Option.map_eq_some_iff.1 h
  cases scope with
  | run =>
    cases found
    cases action
    exact ⟨rfl, rfl⟩
  | reftest =>
    obtain ⟨path, -, rfl⟩ := Option.map_eq_some_iff.1 found
    cases action
  | env =>
    cases found
    cases action
  | tool => cases found

/-! ## Command lines with `run` -/

/-- What stands on a command line with `run` before the words that are handed on. -/
def runLine (outer zone : List Item) (words : List Bytes) : List Bytes :=
  wordsOf outer ++ runWord :: (wordsOf zone ++ words)

theorem spelt_zone (fits : ∀ item ∈ outer, item.Fits .tool) (fits' : ∀ item ∈ zone, item.Fits .run) :
    Line.Spelt ⟨outer, .run, zone, []⟩ (runLine outer zone []) := by
  refine .intro fits runWord_mem ?_
  simpa using Spells.nothing.append fits'

theorem spelt_literal (fits : ∀ item ∈ outer, item.Fits .tool) (fits' : ∀ item ∈ zone, item.Fits .run)
    (words : List Bytes) :
    Line.Spelt ⟨outer, .run, zone, words⟩ (runLine outer zone (twoHyphens :: words)) := by
  refine .intro fits runWord_mem ?_
  simpa using (Spells.literal words).append fits'

/-- A request to run is read from a line with `run`, taken apart. -/
theorem Request.run_line (h : Request.read environment words = .ok request)
    (action : request.action = .run skipBuild features args) :
    ∃ outer zone mark, words = runLine outer zone (mark ++ args) ∧
      (∀ item ∈ outer, item.Fits .tool) ∧ (mark = [] ∨ mark = [twoHyphens]) ∧
      (∀ item ∈ zone, item.Fits .run) ∧ Spells .run zone args (wordsOf zone ++ mark ++ args) ∧
      Line.Proper environment ⟨outer, .run, zone, args⟩ ∧
      Line.request? environment ⟨outer, .run, zone, args⟩ = some request := by
  obtain ⟨⟨outer, scope, zone, plain⟩, ⟨fits, named, inner⟩, proper, asked⟩ := read_eq_ok_iff.1 h
  obtain ⟨rfl, rfl⟩ : scope = .run ∧ plain = args := Line.scope_of_run asked action
  obtain rfl := eq_runWord named
  obtain ⟨fits', mark, ends, rfl⟩ := Spells.eq_append inner
  exact ⟨outer, zone, mark, by simp [runLine], fits, ends, fits', inner, proper, asked⟩

/-- What `run` hands on is the end of the command line, and only items and perhaps two hyphens stand
between it and the name of the action. Behind its first word it can be replaced by any words that are
text, and behind two hyphens so can all of it; neither changes anything else that is asked for. -/
theorem Request.run_hands_on (environment : Variables) :
    (∀ words request skipBuild features args, Request.read environment words = .ok request →
      request.action = .run skipBuild features args →
      ∃ outer zone mark,
        words = wordsOf outer ++ Bytes.ascii "run" :: (wordsOf zone ++ mark ++ args) ∧
        (∀ item ∈ outer, item.Fits .tool) ∧ (∀ item ∈ zone, item.Fits .run) ∧
        (mark = [] ∨ mark = [twoHyphens]) ∧
        ∀ first rest other, args = first :: rest → (∀ word ∈ other, Utf8.isText word = true) →
          Request.read environment
              (wordsOf outer ++ Bytes.ascii "run" :: (wordsOf zone ++ mark ++ first :: other)) =
            .ok { request with action := .run skipBuild features (first :: other) }) ∧
    ∀ outer zone request, (∀ item ∈ outer, item.Fits .tool) → (∀ item ∈ zone, item.Fits .run) →
      Request.read environment (wordsOf outer ++ Bytes.ascii "run" :: wordsOf zone) = .ok request →
      ∃ skipBuild features, request.action = .run skipBuild features [] ∧
        ∀ words, (∀ word ∈ words, Utf8.isText word = true) →
          Request.read environment
              (wordsOf outer ++ Bytes.ascii "run" :: (wordsOf zone ++ twoHyphens :: words)) =
            .ok { request with action := .run skipBuild features words } := by
  constructor
  · intro words request skipBuild features args h action
    obtain ⟨outer, zone, mark, rfl, fits, ends, fits', inner, proper, asked⟩ :=
      Request.run_line h action
    refine ⟨outer, zone, mark, by rw [List.append_assoc]; rfl, fits, fits', ends, ?_⟩
    rintro first rest other rfl text
    obtain ⟨before, same, replaced⟩ := inner.replace other
    obtain rfl := List.append_cancel_right same
    obtain ⟨skip, listed, same, others⟩ := Line.request?_run_words asked
    cases same.symm.trans action
    have proper' : Line.Proper environment ⟨outer, .run, zone, first :: other⟩ := by
      obtain ⟨without, texts⟩ := Line.proper_run_iff.1 proper
      refine Line.proper_run_iff.2 ⟨without, List.forall_mem_cons.2 ⟨?_, text⟩⟩
      exact texts first List.mem_cons_self
    exact read_eq_ok_iff.2 ⟨_, .intro fits runWord_mem replaced, proper', others _⟩
  · intro outer zone request fits fits' h
    obtain ⟨line, spelt, proper, asked⟩ := read_eq_ok_iff.1 h
    have bare := spelt_zone fits fits'
    rw [runLine, List.append_nil] at bare
    obtain rfl := spelt.unique bare
    obtain ⟨skipBuild, features, action, others⟩ := Line.request?_run_words asked
    refine ⟨skipBuild, features, action, fun words text => ?_⟩
    exact read_eq_ok_iff.2
      ⟨_, spelt_literal fits fits' words, Line.proper_run_iff.2 ⟨proper, text⟩, others words⟩

/-- `run -v -- -v --help` asks to run with the words `-v --help`, and `run -v render --help` with the words
`render --help`, as `run -v render a` does with `render a`. -/
theorem Request.run_hands_on_own_flags :
    Request.read .empty (["run", "-v", "--", "-v", "--help"].map Bytes.ascii) =
        .ok ⟨Bytes.ascii "../target/release/wrench", Bytes.ascii "cargo", true,
          .run false standardFeatures (["-v", "--help"].map Bytes.ascii)⟩ ∧
      ∃ outer zone mark, ["run", "-v", "render", "a"].map Bytes.ascii =
          wordsOf outer ++ Bytes.ascii "run" ::
            (wordsOf zone ++ mark ++ ["render", "a"].map Bytes.ascii) ∧
        Request.read .empty (wordsOf outer ++ Bytes.ascii "run" ::
            (wordsOf zone ++ mark ++ ["render", "--help"].map Bytes.ascii)) =
          .ok ⟨Bytes.ascii "../target/release/wrench", Bytes.ascii "cargo", true,
            .run false standardFeatures (["render", "--help"].map Bytes.ascii)⟩ := by
  constructor
  · have fits : ∀ item ∈ [Item.lettered .verbose 0x76], item.Fits .run :=
      List.forall_mem_singleton.2 ⟨by decide, rfl⟩
    obtain ⟨skipBuild, features, ⟨⟩, others⟩ := (Request.run_hands_on .empty).2 []
      [.lettered .verbose 0x76] _ nofun fits rfl
    exact others (["-v", "--help"].map Bytes.ascii) (by decide)
  · obtain ⟨outer, zone, mark, split, -, -, -, others⟩ := (Request.run_hands_on .empty).1
      (["run", "-v", "render", "a"].map Bytes.ascii) _ _ _ _ rfl rfl
    exact ⟨outer, zone, mark, split, others _ _ [Bytes.ascii "--help"] rfl (by decide)⟩

end Offscreen.CommandLine
