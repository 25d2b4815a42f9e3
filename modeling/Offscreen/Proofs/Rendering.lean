import Offscreen.Rendering
import Offscreen.Proofs.SearchPath
import Offscreen.Proofs.Selection

/-!
# How the setup of software rendering ends

On Linux and macOS the setup fails as the lookup of the package does. When the lookup gives an
output, the setup is rejected if a colon stands in the path of that output, and else sets exactly
two variables (`configure_outcome`). The search path among them lists the library directories of
the platform and nothing else.
-/

namespace Offscreen.Rendering
set_option autoImplicit false

/-- The library directories of a platform in the output of the package. -/
def libraries : Platform → Bytes → List Bytes
  | .linux, output => [output ++ Bytes.ascii "/out/lib/gallium"]
  | .macos, output =>
    [output ++ Bytes.ascii "/out/src/gallium/targets/osmesa/.libs",
      output ++ Bytes.ascii "/out/src/mapi/shared-glapi/.libs"]
  | .windows, _ | .other, _ => []

/-- The variables that are set on a platform, in the order of their names. -/
def settings : Platform → Bytes → List (Bytes × Bytes)
  | .linux, output =>
    [(Bytes.ascii "GALLIUM_DRIVER", Bytes.ascii "softpipe"),
      (Bytes.ascii "LD_LIBRARY_PATH", output ++ Bytes.ascii "/out/lib/gallium")]
  | .macos, output =>
    [(Bytes.ascii "DYLD_LIBRARY_PATH",
        output ++ Bytes.ascii "/out/src/gallium/targets/osmesa/.libs" ++
          colon :: output ++ Bytes.ascii "/out/src/mapi/shared-glapi/.libs"),
      (Bytes.ascii "GALLIUM_DRIVER", Bytes.ascii "softpipe")]
  | .windows, _ | .other, _ => []

/-- The variable that the loader of a platform searches. -/
def loaderPath : Platform → Bytes
  | .linux => Bytes.ascii "LD_LIBRARY_PATH"
  | .macos => Bytes.ascii "DYLD_LIBRARY_PATH"
  | .windows | .other => []

/-- How the setup of a platform ends after the lookup has given an output. -/
structure Outcome (files : Files) (platform : Platform) (binary output : Bytes) : Prop where
  /-- Only the directory of the binary and the name of the selected entry can bring a colon in. -/
  selected : ∃ found best, Lookup.scan files package (Lookup.buildDir binary) = .ok found ∧
    Lookup.newest found = some best ∧ output = Lookup.buildDir binary ++ slash :: best.name ∧
    (colon ∈ output ↔ colon ∈ Lookup.binaryDir binary ∨ colon ∈ best.name)
  rejected_iff :
    configure files platform binary = .error (.invalidSearchPath (libraries platform output)) ↔
      colon ∈ output
  accepted : colon ∉ output → ∃ overrides, configure files platform binary = .ok overrides ∧
    overrides.values.entries = settings platform output ∧
    (overrides.get? (loaderPath platform)).map SearchPath.directories =
      some (libraries platform output) ∧
    [] ∉ libraries platform output

section

variable {files : Files} {platform : Platform} {binary output : Bytes}

theorem linuxLibraries_eq (h : Path.Open output) :
    linuxLibraries output = output ++ Bytes.ascii "/out/lib/gallium" :=
  Path.descend_eq_append (by decide) h

theorem macosDrawing_eq (h : Path.Open output) :
    macosDrawing output = output ++ Bytes.ascii "/out/src/gallium/targets/osmesa/.libs" :=
  Path.descend_eq_append (by decide) h

theorem macosDispatch_eq (h : Path.Open output) :
    macosDispatch output = output ++ Bytes.ascii "/out/src/mapi/shared-glapi/.libs" :=
  Path.descend_eq_append (by decide) h

theorem configure_of_require_error {fault : Fault} (supported : platform.supported = true)
    (h : Lookup.require files package binary = .error fault) :
    configure files platform binary = .error fault := by
  cases platform with
  | linux | macos => simp only [configure, h, bind, Except.bind]
  | windows | other => cases supported

/-- On macOS both lookups give the same output, since the files are those of one moment. -/
theorem configure_of_require_ok (supported : platform.supported = true)
    (h : Lookup.require files package binary = .ok output) (isOpen : Path.Open output) :
    configure files platform binary = overrides (loaderPath platform) (libraries platform output) := by
  cases platform with
  | linux =>
    simp only [configure, h, bind, Except.bind, linuxLibraries_eq isOpen]
    rfl
  | macos =>
    simp only [configure, h, bind, Except.bind, macosDrawing_eq isOpen, macosDispatch_eq isOpen]
    rfl
  | windows | other => cases supported

/-- What is below the output brings no colon in. -/
theorem colon_mem_libraries (supported : platform.supported = true) :
    (∃ dir ∈ libraries platform output, colon ∈ dir) ↔ colon ∈ output := by
  have linux : colon ∉ Bytes.ascii "/out/lib/gallium" := by decide
  have drawing : colon ∉ Bytes.ascii "/out/src/gallium/targets/osmesa/.libs" := by decide
  have dispatch : colon ∉ Bytes.ascii "/out/src/mapi/shared-glapi/.libs" := by decide
  cases platform with
  | linux => simp [libraries, linux]
  | macos => simp [libraries, drawing, dispatch]
  | windows | other => cases supported

theorem overrides_eq_error_iff {name : Bytes} {dirs : List Bytes} {fault : Fault} :
    overrides name dirs = .error fault ↔ SearchPath.ofDirectories dirs = .error fault := by
  unfold overrides
  cases SearchPath.ofDirectories dirs <;> simp [Except.map]

/-- The two variables stand in the order of their names. -/
theorem entries_eq_settings (supported : platform.supported = true) :
    ((Overrides.empty.set (loaderPath platform) ([colon].intercalate (libraries platform output))).set
      driver softwareDriver).values.entries = settings platform output := by
  cases platform with
  | linux =>
    have path : [colon].intercalate (libraries .linux output) = output ++ Bytes.ascii "/out/lib/gallium" := by
      simp [libraries, List.intercalate]
    rw [path]
    rfl
  | macos =>
    have path : [colon].intercalate (libraries .macos output) =
        output ++ Bytes.ascii "/out/src/gallium/targets/osmesa/.libs" ++
          colon :: output ++ Bytes.ascii "/out/src/mapi/shared-glapi/.libs" := by
      simp [libraries, List.intercalate]
    rw [path]
    rfl
  | windows | other => cases supported

/-- A setup without a colon sets the variables of the platform. -/
theorem outcome_accepted (supported : platform.supported = true) (free : colon ∉ output) :
    ∃ result, overrides (loaderPath platform) (libraries platform output) = .ok result ∧
      result.values.entries = settings platform output ∧
      (result.get? (loaderPath platform)).map SearchPath.directories =
        some (libraries platform output) := by
  have apart : ∀ dir ∈ libraries platform output, colon ∉ dir := fun dir mem held =>
    free ((colon_mem_libraries supported).1 ⟨dir, mem, held⟩)
  have path := SearchPath.ofDirectories_eq_ok_iff.2 ⟨apart, rfl⟩
  have nonempty : libraries platform output ≠ [] := by cases platform <;> simp_all [libraries, Platform.supported]
  refine ⟨_, by rw [overrides, path]; rfl, entries_eq_settings supported, ?_⟩
  have other : driver ≠ loaderPath platform := by cases platform <;> decide
  have held : (((Overrides.empty.set (loaderPath platform) ([colon].intercalate (libraries platform output))).set
      driver softwareDriver).get? (loaderPath platform)) = some ([colon].intercalate (libraries platform output)) := by
    simp [Overrides.get?, Overrides.set, ByteMap.get?_insert, other]
  rw [held, Option.map_some, SearchPath.directories_of_ok nonempty path]

theorem overrides_eq_ok {name : Bytes} {dirs : List Bytes} {result : Overrides}
    (h : overrides name dirs = .ok result) :
    result = (Overrides.empty.set name ([colon].intercalate dirs)).set driver softwareDriver := by
  unfold overrides at h
  cases path : SearchPath.ofDirectories dirs with
  | error fault =>
    rw [path] at h
    cases h
  | ok value =>
    rw [path] at h
    rw [(SearchPath.ofDirectories_eq_ok_iff.1 path).2]
    exact (Except.ok.inj h).symm

/-- A setup that succeeds has found the package and sets the variables of the platform. -/
theorem configure_eq_ok {result : Overrides} (supported : platform.supported = true)
    (h : configure files platform binary = .ok result) :
    ∃ output, Lookup.require files package binary = .ok output ∧
      result.values.entries = settings platform output := by
  cases required : Lookup.require files package binary with
  | error fault => exact nomatch h.symm.trans (configure_of_require_error supported required)
  | ok output =>
    rw [configure_of_require_ok supported required (Lookup.open_of_require required)] at h
    exact ⟨output, rfl, overrides_eq_ok h ▸ entries_eq_settings supported⟩

/-- A setup succeeds once the package is found in a path without colons. -/
theorem exists_configure (supported : platform.supported = true)
    (required : Lookup.require files package binary = .ok output) (free : colon ∉ output) :
    ∃ result, configure files platform binary = .ok result ∧
      result.values.entries = settings platform output := by
  obtain ⟨result, made, entries, -⟩ := outcome_accepted supported free
  have configured := configure_of_require_ok supported required (Lookup.open_of_require required)
  exact ⟨result, configured.trans made, entries⟩

end

/-- **Outcome of the setup.** On a platform with a setup, the setup fails as the lookup of the
package does, or else ends as the path of the output allows. -/
theorem configure_outcome (files : Files) (platform : Platform) (binary : Bytes)
    (supported : platform.supported = true) :
    (∀ fault, Lookup.require files package binary = .error fault →
      configure files platform binary = .error fault) ∧
    (∀ output, Lookup.require files package binary = .ok output →
      Outcome files platform binary output) := by
  refine ⟨fun fault h => configure_of_require_error supported h, fun output h => ?_⟩
  obtain ⟨found, best, scanned, newest, rfl, segment⟩ := Lookup.require_eq_ok h
  have isOpen : Path.Open (Lookup.buildDir binary ++ slash :: best.name) := by
    have := segment.open_append (Lookup.buildDir binary ++ [slash])
    rwa [List.append_assoc] at this
  have configured := configure_of_require_ok supported h isOpen
  refine ⟨⟨found, best, scanned, newest, rfl, ?_⟩, ?_, fun free => ?_⟩
  · rw [List.mem_append, Lookup.mem_buildDir (by decide) (by decide), List.mem_cons]
    simp [show colon ≠ slash by decide]
  · rw [configured, overrides_eq_error_iff, SearchPath.ofDirectories_eq_error_iff,
      colon_mem_libraries supported]
    simp
  · obtain ⟨result, accepted, entries, directories⟩ := outcome_accepted supported free
    refine ⟨result, configured.trans accepted, entries, directories, ?_⟩
    cases platform <;> simp [libraries]

/-- A colon in the name of an older output does not matter. -/
theorem configure_outcome_of_older_colon :
    let older : EntryName := ⟨Bytes.ascii "osmesa-src-a:b", by decide⟩
    let newer : EntryName := ⟨Bytes.ascii "osmesa-src-" ++ [0xff], by decide⟩
    let files := Lookup.oneDirectory (Bytes.ascii "/r/build")
      [(newer, some ⟨7, ⟨0, by decide⟩⟩), (older, some ⟨-7, ⟨9, by decide⟩⟩)]
    Platform.macos.supported = true ∧
      ∃ output, Lookup.require files package (Bytes.ascii "/r/wrench") = .ok output ∧
        Outcome files .macos (Bytes.ascii "/r/wrench") output ∧ colon ∉ output := by
  intro older newer files
  refine ⟨rfl, Bytes.ascii "/r/build/osmesa-src-" ++ [0xff], rfl, ?_, by decide⟩
  exact (configure_outcome files .macos (Bytes.ascii "/r/wrench") rfl).2 _ rfl

end Offscreen.Rendering
