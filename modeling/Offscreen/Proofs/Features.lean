import Offscreen.Proofs.Launches
import Offscreen.Proofs.Verbosity

/-!
# The features of a build

Each value of `--features` is split at its commas when it is read, and all parts are joined with commas for the
build. So the build is given the values as they were written, with commas between them
(`buildCommand_features`), and `headless` where no value was given.
-/

namespace Offscreen
set_option autoImplicit false

namespace CommandLine
variable {environment : Variables} {key : Key} {scope : Scope} {items more : List Item} {line : Line}
  {request : Request} {skipBuild : Bool} {features args : List Bytes}

/-! ## The values of a line -/

theorem valuesIn_append : valuesIn key (items ++ more) = valuesIn key items ++ valuesIn key more := by
  simp [valuesIn]

theorem Item.Fits.key_mem {item : Item} {entry : Key × Bytes} (fits : item.Fits scope)
    (is : item.entry? = some entry) : entry.1 ∈ scope.keys := by
  cases item with
  | joined key value =>
    cases is
    exact fits
  | apart key value =>
    cases is
    exact fits.1
  | named flag => cases is
  | lettered flag letter => cases is

/-- Items that fit a scope give values to its own options only. -/
theorem valuesIn_of_unknown (fits : ∀ item ∈ items, item.Fits scope) (unknown : key ∉ scope.keys) :
    valuesIn key items = [] := by
  rw [valuesIn, List.map_eq_nil_iff, List.filter_eq_nil_iff]
  intro entry entered same
  obtain ⟨item, mem, is⟩ := List.mem_filterMap.1 entered
  have known := (fits item mem).key_mem is
  rw [of_decide_eq_true same] at known
  exact unknown known

/-- The tool itself is given no features. -/
theorem Line.Spelt.valuesIn_features {words : List Bytes} (spelt : line.Spelt words) :
    valuesIn .features (line.outer ++ line.inner) = line.innerGiven.valuesOf .features := by
  obtain ⟨fits, named, inner⟩ := spelt
  rw [valuesIn_append, valuesIn_of_unknown fits (by decide), List.nil_append]
  rfl

theorem Line.features_of_run (asked : line.request? environment = some request)
    (action : request.action = .run skipBuild features args) : features = line.innerGiven.features := by
  obtain ⟨run, -⟩ := line.scope_of_run asked action
  obtain ⟨given, found, rfl⟩ := Option.map_eq_some_iff.1 asked
  rw [run] at found
  cases found
  cases action
  rfl

/-- The values of features are text. -/
theorem Line.Proper.features_text (proper : line.Proper environment) :
    ∀ value ∈ line.innerGiven.valuesOf .features, Utf8.isText value = true :=
  fun _ => proper.inner.accepts

end CommandLine

/-! ## The word for the build -/

namespace Tool

/-- The word that names the features of a build: the values that were given with commas between them, or else
`headless`. -/
def featuresWord (values : List Bytes) : Bytes :=
  if values = [] then Bytes.ascii "headless" else [comma].intercalate values

theorem features_ne_nil (given : CommandLine.Given) : given.features ≠ [] := by
  unfold CommandLine.Given.features
  split
  · exact List.cons_ne_nil _ _
  · rename_i values some
    obtain ⟨value, mem⟩ := List.exists_mem_of_ne_nil _ some
    intro none
    exact List.splitOn_ne_nil comma value (List.flatMap_eq_nil_iff.1 none value mem)

theorem intercalate_features (given : CommandLine.Given) :
    [comma].intercalate given.features = featuresWord (given.valuesOf .features) := by
  unfold CommandLine.Given.features featuresWord
  split
  · rename_i none
    rw [if_pos none]
    exact List.intercalate_singleton
  · rename_i values some
    rw [if_neg some]
    exact Bytes.intercalate_flatMap_splitOn comma _

/-- The build is given the values as they were written. -/
theorem buildCommand_features (cargo : Bytes) (given : CommandLine.Given) :
    buildCommand cargo given.features =
      .plain cargo (["build", "--release", "--features"].map Bytes.ascii ++
        [featuresWord (given.valuesOf .features)]) := by
  rw [buildCommand, if_neg (features_ne_nil given), intercalate_features]
  rfl

/-- A build that is not skipped is attempted before anything else. -/
theorem head?_launches_of_run {σ : Type} (host : Host σ) (config : Config) (features args : List Bytes) (start : σ) :
    (perform host config (.run false features args) start).2.launches.head? =
      some (buildCommand config.cargo features) := by
  obtain ⟨rendered, split, -⟩ := launches_split host config (.run false features args) start
  rw [split]
  rfl

end Tool

namespace Invocation
variable {σ : Type}

/-- **Features reach the build unchanged.** Whatever values a command line gives to `--features`, the build is
given one word with these values between commas, byte for byte, and the word `headless` if there are none. -/
theorem features_unchanged (host : Variables → Host σ) (environment : Variables) (words : List Bytes)
    (request : CommandLine.Request) (skipBuild : Bool) (features args : List Bytes) (state : σ)
    (read : CommandLine.Request.read environment words = .ok request)
    (action : request.action = .run skipBuild features args) :
    ∃ line : CommandLine.Line, line.Spelt words ∧ (∀ other : CommandLine.Line, other.Spelt words → other = line) ∧
      let values := CommandLine.valuesIn .features (line.outer ++ line.inner)
      let build := Command.plain request.cargo (["build", "--release", "--features"].map Bytes.ascii ++
        [if values = [] then Bytes.ascii "headless" else [comma].intercalate values])
      (∀ value ∈ values, Utf8.isText value = true) ∧ Tool.buildCommand request.cargo features = build ∧
      ∀ filter, skipBuild = false → Filter.chosen environment request.verbose = some filter →
        (run host environment words state).1.launches.head? = some build := by
  obtain ⟨line, spelt, proper, asked⟩ := CommandLine.Request.read_eq_ok_iff.1 read
  have built : Tool.buildCommand request.cargo features = .plain request.cargo
      (["build", "--release", "--features"].map Bytes.ascii ++
        [Tool.featuresWord (line.innerGiven.valuesOf .features)]) := by
    rw [line.features_of_run asked action]
    exact Tool.buildCommand_features _ _
  refine ⟨line, spelt, fun other spelt' => spelt'.unique spelt, ?_⟩
  rw [spelt.valuesIn_features]
  refine ⟨proper.features_text, built, ?_⟩
  rintro filter rfl chosen
  rw [run_of_read read chosen, carryOut, action]
  exact (Tool.head?_launches_of_run _ request.config features args state).trans (congrArg some built)

/-- An empty value, doubled commas and a comma at the end of the last value all reach the build, between other
items of the line. -/
theorem features_unchanged_of_commas :
    let silent : Files :=
      ⟨fun _ => .error .notFound, fun _ => .error .notFound, fun _ => .error .notFound⟩
    let host : Variables → Host Unit := fun _ => ⟨fun _ => silent, fun _ _ => (.ok ⟨0⟩, ())⟩
    let words := ["run", "--features=", "-v", "--features", "a,,b ", "--features=,", "--", "show"].map Bytes.ascii
    CommandLine.Request.read .empty words = .ok ⟨Bytes.ascii "../target/release/wrench", Bytes.ascii "cargo", true,
        .run false (["", "a", "", "b ", "", ""].map Bytes.ascii) [Bytes.ascii "show"]⟩ ∧
      (run host .empty words ()).1.launches.head? =
        some (.plain (Bytes.ascii "cargo") (["build", "--release", "--features", ",a,,b ,,"].map Bytes.ascii)) := by
  intro silent host words
  have read : CommandLine.Request.read .empty words = .ok ⟨Bytes.ascii "../target/release/wrench",
    Bytes.ascii "cargo", true, .run false (["", "a", "", "b ", "", ""].map Bytes.ascii) [Bytes.ascii "show"]⟩ := rfl
  have known : CommandLine.Key.features ∈ CommandLine.Scope.run.keys := by decide
  have verbose : CommandLine.Flag.verbose ∈ CommandLine.Scope.run.flags := by decide
  have bare : ∀ item ∈ ([] : List CommandLine.Item), item.Fits .tool := nofun
  have fits : ∀ item ∈ [CommandLine.Item.joined .features [], .lettered .verbose 0x76,
      .apart .features (Bytes.ascii "a,,b "), .joined .features [comma]], item.Fits .run :=
    List.forall_mem_cons.2 ⟨known, List.forall_mem_cons.2 ⟨⟨verbose, rfl⟩,
      List.forall_mem_cons.2 ⟨⟨known, trivial⟩, List.forall_mem_singleton.2 known⟩⟩⟩
  have spelt := CommandLine.spelt_literal bare fits [Bytes.ascii "show"]
  obtain ⟨line, -, only, -, -, launched⟩ :=
    features_unchanged host .empty words _ false _ _ () read rfl
  obtain rfl := only _ spelt
  exact ⟨read, (launched _ rfl rfl).trans (by decide)⟩

end Invocation
end Offscreen
