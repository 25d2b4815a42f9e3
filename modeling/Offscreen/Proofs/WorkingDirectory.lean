import Offscreen.Proofs.Irrelevance
import Offscreen.Proofs.Walk
import Offscreen.Scratch.Stage

/-!
# Where the path of a binary is split

The directory of a binary is named by the path up to its last slash, and is the current directory if there
is no slash. Only a lone dot behind the last slash makes a difference: it names nothing, so the directory is
the one above. An absolute path that names something below the root leads to an absolute build directory,
and then nothing that is looked up or set for the renderer depends on the working directory
(`binaryDir_splits`).
-/

namespace Offscreen
set_option autoImplicit false

/-! ## Files that absolute paths tell of -/

/-- Whether two states of the files tell the same of every absolute path. -/
structure Files.SameAbsolute (a b : Files) : Prop where
  list : ∀ path, Path.isAbsolute path = true → a.list path = b.list path
  modified : ∀ path, Path.isAbsolute path = true → a.modified path = b.modified path

namespace Scratch.Tree

/-- Where a machine runs its programs does not matter to absolute paths. -/
theorem sameAbsolute_of_working (tree : Tree) (working : Location) :
    ({ tree with working := working } : Tree).files.SameAbsolute tree.files where
  list path absolute := by
    simp only [files, resolve_of_working tree working absolute]
    rfl
  modified path absolute := by
    simp only [files, resolve_of_working tree working absolute]
    rfl

end Scratch.Tree

theorem Path.isAbsolute_join {directory : Bytes} (absolute : isAbsolute directory = true) (path : Bytes) :
    isAbsolute (join directory path) = true := by
  by_cases alone : isAbsolute path = true
  · rw [join, if_pos alone]
    exact alone
  · obtain ⟨between, -, same⟩ := join_eq_append directory (Bool.eq_false_iff.2 alone)
    have nonempty : directory ≠ [] := by
      rintro rfl
      cases absolute
    have begins : directory <+: join directory path := ⟨between ++ path, by rw [same, List.append_assoc]⟩
    rw [← isAbsolute_of_prefix nonempty begins, absolute]

namespace Lookup

open Offscreen.Path (components isAbsolute)

variable {a b : Files} {package dir binary : Bytes}

/-- A scan reads a directory and the times of its entries. -/
theorem scan_congr (listed : a.list dir = b.list dir)
    (modified : ∀ name : EntryName, a.modified (Path.join dir name.bytes) = b.modified (Path.join dir name.bytes)) :
    scan a package dir = scan b package dir := by
  have taken : candidate a package dir = candidate b package dir := by
    funext item
    cases item with
    | error cause => rfl
    | ok name => simp only [candidate, modified]
  simp only [scan, candidates, listed, taken]

theorem resolve_of_sameAbsolute (absolute : isAbsolute (buildDir binary) = true) (same : a.SameAbsolute b)
    (package : Bytes) : resolve a package binary = resolve b package binary := by
  have scanned : scan a package (buildDir binary) = scan b package (buildDir binary) := by
    apply scan_congr
    · exact same.list _ absolute
    · intro name
      exact same.modified _ (Path.isAbsolute_join absolute name.bytes)
  simp only [resolve, scanned]

/-! ## Absolute paths -/

theorem isAbsolute_binaryDir (absolute : isAbsolute binary = true)
    (named : binary.getLast? = some slash ∨ ∃ c ∈ components binary, c ≠ .root) :
    isAbsolute (binaryDir binary) = true := by
  by_cases last : binary.getLast? = some slash
  · rwa [binaryDir_of_ends last]
  · cases located last with
    | here short dir =>
      obtain ⟨c, mem, other⟩ := named.resolve_left last
      obtain ⟨rest, begins⟩ := Path.components_of_isAbsolute absolute
      -- no component stands before the last one, so the root is the only one
      have alone : rest = [] := by
        rw [begins] at short
        cases rest with
        | nil => rfl
        | cons first rest => cases short
      rw [begins, alone, List.mem_singleton] at mem
      exact absurd mem other
    | below name dir begins split => rwa [Path.isAbsolute_of_prefix dir begins]

/-- The directories that the loader is told to search lie below the package's output. -/
theorem directories_of_configure {files : Files} {platform : Platform} {overrides : Overrides}
    (supported : platform.supported = true) (configured : Rendering.configure files platform binary = .ok overrides) :
    ∃ output, require files Rendering.package binary = .ok output ∧
      (overrides.get? (Rendering.loaderPath platform)).map SearchPath.directories =
        some (Rendering.libraries platform output) := by
  obtain ⟨output, required, -⟩ := Rendering.configure_eq_ok supported configured
  have made := Rendering.configure_of_require_ok supported required (open_of_require required)
  rw [configured] at made
  refine ⟨output, required, ?_⟩
  by_cases held : colon ∈ output
  · have rejected : Rendering.overrides (Rendering.loaderPath platform) (Rendering.libraries platform output) =
        .error (.invalidSearchPath (Rendering.libraries platform output)) := by
      rw [Rendering.overrides_eq_error_iff, SearchPath.ofDirectories_eq_error_iff]
      exact ⟨(Rendering.colon_mem_libraries supported).2 held, rfl⟩
    cases made.trans rejected
  · obtain ⟨result, accepted, -, directories⟩ := Rendering.outcome_accepted supported held
    cases made.trans accepted
    exact directories

theorem isAbsolute_of_mem_libraries {platform : Platform} {output dir : Bytes} (absolute : isAbsolute output = true)
    (mem : dir ∈ Rendering.libraries platform output) : isAbsolute dir = true := by
  have begins : output <+: dir := by
    cases platform with
    | linux =>
      rw [List.mem_singleton.1 mem]
      exact List.prefix_append _ _
    | macos =>
      simp only [Rendering.libraries, List.mem_cons, List.not_mem_nil, or_false] at mem
      rcases mem with rfl | rfl
      · exact List.prefix_append _ _
      · exact List.prefix_append _ _
    | windows | other => cases mem
  have nonempty : output ≠ [] := by
    rintro rfl
    cases absolute
  rwa [← Path.isAbsolute_of_prefix nonempty begins]

theorem isAbsolute_of_require {files : Files} {output : Bytes} (absolute : isAbsolute (buildDir binary) = true)
    (required : require files package binary = .ok output) : isAbsolute output = true := by
  obtain ⟨name, -, below⟩ := belongs_of_require required
  rw [below, ← join_buildDir]
  exact Path.isAbsolute_join absolute name.bytes

variable (binary) in
/-- Nothing that is looked up beside a binary depends on the working directory. -/
structure Anchored : Prop where
  build : isAbsolute (buildDir binary) = true
  /-- The loader is told to search in directories with absolute paths only. -/
  directories : ∀ files platform overrides, platform.supported = true →
    Rendering.configure files platform binary = .ok overrides →
    ∃ dirs, (overrides.get? (Rendering.loaderPath platform)).map SearchPath.directories = some dirs ∧
      ∀ dir ∈ dirs, isAbsolute dir = true
  resolve_eq : ∀ a b, a.SameAbsolute b → ∀ package, resolve a package binary = resolve b package binary
  indistinct : ∀ a b, a.SameAbsolute b → Indistinct a b binary
  /-- So it is on a machine whose programs run in another directory. -/
  moved : ∀ (tree : Scratch.Tree) (working : Scratch.Location),
    Indistinct ({ tree with working := working } : Scratch.Tree).files tree.files binary

theorem anchored_of_build (absolute : isAbsolute (buildDir binary) = true) : Anchored binary := by
  have alike {a b : Files} (same : a.SameAbsolute b) : Indistinct a b binary :=
    .of_resolve_eq (resolve_of_sameAbsolute absolute same Rendering.package)
  refine ⟨absolute, ?_, ?_, ?_, ?_⟩
  · intro files platform overrides supported configured
    obtain ⟨output, required, directories⟩ := directories_of_configure supported configured
    refine ⟨_, directories, ?_⟩
    intro dir mem
    exact isAbsolute_of_mem_libraries (isAbsolute_of_require absolute required) mem
  · intro a b same package
    exact resolve_of_sameAbsolute absolute same package
  · intro a b same
    exact alike same
  · intro tree working
    exact alike (tree.sameAbsolute_of_working working)

/-! ## The split -/

/-- Behind the last slash stands a name of its own, a lone dot, or nothing. -/
theorem components_binaryDir_of_split {front name : Bytes} (apart : slash ∉ name) (ne_dot : name ≠ [dot]) :
    components (binaryDir (front ++ slash :: name)) = components (front ++ [slash]) := by
  by_cases empty : name = []
  · have last : (front ++ slash :: name).getLast? = some slash := by
      rw [empty]
      exact List.getLast?_concat
    rw [binaryDir_of_ends last, empty]
  · rw [binaryDir_append_slash ⟨⟨empty, apart⟩, ne_dot⟩, Path.components_trim]

theorem not_ends_of_dot {front : Bytes} (path : binary = front ++ [slash, dot]) : binary.getLast? ≠ some slash := by
  have split : front ++ [slash, dot] = (front ++ [slash]) ++ [dot] := by simp
  rw [path, split, List.getLast?_concat]
  decide

variable (binary) in
/-- How the directory of a binary lies to the place where its path is split. -/
structure Split : Prop where
  /-- What has no slash lies in the current directory. -/
  bare : slash ∉ binary → binaryDir binary = [dot]
  /-- The directory is named by what stands up to the last slash. -/
  behind : ∀ front name, binary = front ++ slash :: name → slash ∉ name → name ≠ [dot] →
    components (binaryDir binary) = components (front ++ [slash])
  /-- With a lone dot behind the last slash, it is the directory above that one. -/
  above : ∀ front, binary = front ++ [slash, dot] → (components (front ++ [slash])).dropLast ≠ [] →
    components (binaryDir binary) = (components (front ++ [slash])).dropLast
  /-- Above a relative path of one component lies the current directory. -/
  here : ∀ front, binary = front ++ [slash, dot] → isAbsolute binary = false →
    (components (front ++ [slash])).dropLast = [] → binaryDir binary = [dot]
  anchored : isAbsolute binary = true → (binary.getLast? = some slash ∨ ∃ c ∈ components binary, c ≠ .root) →
    Anchored binary

/-- **Split.** The directory of a binary is named by its path up to the last slash. Where only a dot stands
behind that slash it is the directory above. What is looked up beside an absolute path that names something
depends on no working directory. -/
theorem binaryDir_splits (binary : Bytes) : Split binary where
  bare := binaryDir_of_slash_not_mem
  behind front name path apart ne_dot := by
    rw [path]
    exact components_binaryDir_of_split apart ne_dot
  above front path rest := by
    have made := Path.components_append_dot front
    rw [← path] at made
    rw [← made] at rest ⊢
    cases located (not_ends_of_dot path) with
    | here short => exact absurd short rest
    | below name dir begins split => rw [split, List.dropLast_concat]
  here front path relative few := by
    have made := Path.components_append_dot front
    rw [← path] at made
    rw [← made] at few
    cases located (not_ends_of_dot path) with
    | here _ dir => exact dir
    | below name dir begins split =>
      rw [split, List.dropLast_concat] at few
      exact absurd few (Path.components_ne_nil dir)
  anchored absolute named :=
    anchored_of_build (Path.isAbsolute_join (isAbsolute_binaryDir absolute named) (Bytes.ascii "build"))

/-- The path up to the last slash names `a/b`, but the directory is `a`. And what lies beside a dot in the root
is looked for in the current directory. -/
theorem binaryDir_of_dot :
    let front := Bytes.ascii "a/b"
    slash ∉ [dot] ∧ binaryDir (front ++ slash :: [dot]) = Bytes.ascii "a" ∧
      components (binaryDir (front ++ slash :: [dot])) ≠ components (front ++ [slash]) ∧
      isAbsolute [slash, dot] = true ∧ isAbsolute (buildDir [slash, dot]) = false := by
  decide

end Lookup
end Offscreen
