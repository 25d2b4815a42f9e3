import Offscreen.Proofs.Assignments
import Offscreen.Proofs.Directory
import Offscreen.Proofs.Reftest
import Offscreen.Proofs.Rendering

/-!
# What `env` prints of the setup

On a platform with a setup `env` prints the text of the overrides that the renderer would get. That text
reads back as exactly these overrides unless a newline stands in the path of the output, and then it has
more lines than there are variables (`envText_read_back`). A newline can come from the directory of the
binary and from the name of the selected entry.
-/

namespace Offscreen.Rendering
set_option autoImplicit false

variable {files : Files} {platform : Platform} {binary output : Bytes} {entry : Bytes × Bytes}

/-! ## The variables as lines -/

/-- The search path of the library directories. -/
def searchPath (platform : Platform) (output : Bytes) : Bytes :=
  [colon].intercalate (libraries platform output)

theorem mem_settings_iff (supported : platform.supported = true) :
    entry ∈ settings platform output ↔
      entry = (driver, softwareDriver) ∨ entry = (loaderPath platform, searchPath platform output) := by
  cases platform with
  | linux =>
    have path : searchPath .linux output = output ++ Bytes.ascii "/out/lib/gallium" := by
      simp [searchPath, libraries]
    simp only [path, settings, List.mem_cons, List.not_mem_nil, or_false]
    exact Iff.rfl
  | macos =>
    have path : searchPath .macos output =
        output ++ Bytes.ascii "/out/src/gallium/targets/osmesa/.libs" ++
          colon :: output ++ Bytes.ascii "/out/src/mapi/shared-glapi/.libs" := by
      simp [searchPath, libraries, List.intercalate]
    simp only [path, settings, List.mem_cons, List.not_mem_nil, or_false]
    exact or_comm
  | windows | other => cases supported

/-- Nothing below the output brings a newline in. -/
theorem newline_mem_searchPath (supported : platform.supported = true) :
    newline ∈ searchPath platform output ↔ newline ∈ output := by
  have gallium : newline ∉ Bytes.ascii "/out/lib/gallium" := by decide
  have drawing : newline ∉ Bytes.ascii "/out/src/gallium/targets/osmesa/.libs" := by decide
  have dispatch : newline ∉ Bytes.ascii "/out/src/mapi/shared-glapi/.libs" := by decide
  have other : newline ≠ colon := by decide
  cases platform with
  | linux => simp [searchPath, libraries, gallium]
  | macos => simp [searchPath, libraries, List.intercalate, drawing, dispatch, other]
  | windows | other => cases supported

theorem isText_searchPath (text : Utf8.isText output = true) : Utf8.isText (searchPath platform output) = true := by
  cases platform with
  | linux =>
    simp only [searchPath, libraries, List.intercalate_singleton]
    exact Utf8.isText_append_of_ascii text (by decide +kernel)
  | macos =>
    have drawing : Utf8.isText (output ++ Bytes.ascii "/out/src/gallium/targets/osmesa/.libs") = true :=
      Utf8.isText_append_of_ascii text (by decide +kernel)
    have dispatch : Utf8.isText (output ++ Bytes.ascii "/out/src/mapi/shared-glapi/.libs") = true :=
      Utf8.isText_append_of_ascii text (by decide +kernel)
    have ascii : colon < 0x80 := by decide
    simp only [searchPath, libraries, List.intercalate_cons_cons, List.intercalate_singleton]
    rw [List.append_assoc]
    exact (Utf8.isText_append_ascii ascii _ _).2 ⟨drawing, dispatch⟩
  | windows | other => rfl

theorem isText_settings (supported : platform.supported = true) (text : Utf8.isText output = true)
    (mem : entry ∈ settings platform output) : Utf8.isText entry.1 = true ∧ Utf8.isText entry.2 = true := by
  have loader : Utf8.isText (loaderPath platform) = true := by cases platform <;> decide
  rcases (mem_settings_iff supported).1 mem with rfl | rfl
  · decide
  · exact ⟨loader, isText_searchPath text⟩

/-- The text of the variables of a platform is what they are written as. -/
theorem ofText_of_settings {result : Overrides} (supported : platform.supported = true)
    (text : Utf8.isText output = true) (entries : result.values.entries = settings platform output) :
    Bytes.ofText result.text = Assignments.write result.values.entries := by
  apply Assignments.ofText_text_of_isText
  intro entry mem
  rw [entries] at mem
  exact isText_settings supported text mem

theorem settings_apart (supported : platform.supported = true) (mem : entry ∈ settings platform output) :
    equals ∉ entry.1 := by
  have loader : equals ∉ loaderPath platform := by cases platform <;> decide
  rcases (mem_settings_iff supported).1 mem with rfl | rfl
  · decide
  · exact loader

/-- The variables have a line each unless the output brings a newline in. -/
theorem newline_not_mem_settings_iff (supported : platform.supported = true) (output : Bytes) :
    (∀ entry ∈ settings platform output, newline ∉ Assignments.spell entry) ↔ newline ∉ output := by
  rw [← newline_mem_searchPath supported]
  constructor
  · intro free
    have path := free _ ((mem_settings_iff supported).2 (.inr rfl))
    exact (Assignments.newline_not_mem_spell.1 path).2
  · intro free entry mem
    have loader : newline ∉ loaderPath platform := by cases platform <;> decide
    rcases (mem_settings_iff supported).1 mem with rfl | rfl
    · decide
    · exact Assignments.newline_not_mem_spell.2 ⟨loader, free⟩

theorem fits_settings_iff (supported : platform.supported = true) (output : Bytes) :
    (∀ entry ∈ settings platform output, Assignments.Fits entry) ↔ newline ∉ output := by
  rw [← newline_not_mem_settings_iff supported]
  constructor
  · intro fits entry mem
    exact (Assignments.fits_iff.1 (fits entry mem)).2
  · intro free entry mem
    exact Assignments.fits_iff.2 ⟨settings_apart supported mem, free entry mem⟩

end Offscreen.Rendering

namespace Offscreen.Lookup

variable {files : Files} {package binary output : Bytes}

/-- Whether the names of the entries of a directory are text. -/
def Textual (files : Files) (dir : Bytes) : Prop :=
  ∀ items name, files.list dir = .ok items → .ok name ∈ items → Utf8.isText name.bytes = true

theorem isText_of_require (text : Utf8.isText binary = true) (textual : Textual files (buildDir binary))
    (required : require files package binary = .ok output) : Utf8.isText output = true := by
  obtain ⟨name, ⟨⟨items, listed, mem⟩, -⟩, rfl⟩ := belongs_of_require required
  exact (Path.isText_append_slash _ _).2 ⟨isText_buildDir text, textual items name listed mem⟩

end Offscreen.Lookup

namespace Offscreen.Tool

/-- How the text that `env` prints on a platform with a setup is read. -/
structure Preview (files : Files) (config : Config) (platform : Platform) (text : String)
    (overrides : Overrides) (output : Bytes) : Prop where
  configured : Rendering.configure files platform config.wrenchBin = .ok overrides
  required : Lookup.require files Rendering.package config.wrenchBin = .ok output
  /-- Only the directory of the binary and the name of the selected entry can bring a newline in. -/
  below : ∃ name, output = Lookup.buildDir config.wrenchBin ++ slash :: name ∧
    (newline ∈ output ↔ newline ∈ Lookup.binaryDir config.wrenchBin ∨ newline ∈ name)
  /-- Each variable has its line, and there are more lines just where a newline is brought in. -/
  lines : ∃ lines, Assignments.lines? (Bytes.ofText text) = some lines ∧
    overrides.size ≤ lines.length ∧ (lines.length = overrides.size ↔ newline ∉ output)
  read_iff : Assignments.read? (Bytes.ofText text) = some overrides.values.entries ↔ newline ∉ output
  /-- The overrides, and nothing else, are applied to the renderer. -/
  applied : ∀ command, (∃ args, command = renderCommand config args) ∨ (∃ path, command = showCommand config path) →
    (overrides.applyTo command).changes = overrides.changes

theorem envText_eq_ok {files : Files} {config : Config} {platform : Option Platform} {text : String}
    (supported : (platform.getD config.platform).supported = true)
    (rendered : envText files config platform = .ok text) :
    ∃ overrides, Rendering.configure files (platform.getD config.platform) config.wrenchBin = .ok overrides ∧
      overrides.text = text := by
  simp only [envText, supported, if_true] at rendered
  cases configured : Rendering.configure files (platform.getD config.platform) config.wrenchBin with
  | error fault =>
    rw [configured] at rendered
    cases rendered
  | ok overrides =>
    rw [configured] at rendered
    exact ⟨overrides, rfl, Except.ok.inj rendered⟩

/-- Something is printed once the package is found in a path without colons. -/
theorem exists_envText {files : Files} {config : Config} {platform : Option Platform} {output : Bytes}
    (supported : (platform.getD config.platform).supported = true)
    (required : Lookup.require files Rendering.package config.wrenchBin = .ok output) (free : colon ∉ output) :
    ∃ overrides, envText files config platform = .ok overrides.text ∧
      Rendering.configure files (platform.getD config.platform) config.wrenchBin = .ok overrides ∧
      overrides.values.entries = Rendering.settings (platform.getD config.platform) output := by
  obtain ⟨overrides, configured, entries⟩ := Rendering.exists_configure supported required free
  refine ⟨overrides, ?_, configured, entries⟩
  simp only [envText, supported, if_true, configured]
  rfl

/-- **What `env` prints reads back**, one line for each variable, exactly if no newline stands in the path
of the output. -/
theorem envText_read_back (files : Files) (config : Config) (platform : Option Platform) (text : String)
    (supported : (platform.getD config.platform).supported = true)
    (binary : Utf8.isText config.wrenchBin = true)
    (textual : Lookup.Textual files (Lookup.buildDir config.wrenchBin))
    (rendered : envText files config platform = .ok text) :
    ∃ overrides output, Preview files config (platform.getD config.platform) text overrides output := by
  obtain ⟨overrides, configured, rfl⟩ := envText_eq_ok supported rendered
  obtain ⟨output, required, entries⟩ := Rendering.configure_eq_ok supported configured
  have isText := Lookup.isText_of_require binary textual required
  have written := Rendering.ofText_of_settings supported isText entries
  have free_iff := Rendering.newline_not_mem_settings_iff supported output
  have fits_iff := Rendering.fits_settings_iff supported output
  rw [← entries] at free_iff fits_iff
  refine ⟨overrides, output, configured, required, ?_, ?_, ?_, ?_⟩
  · obtain ⟨name, -, below⟩ := Lookup.belongs_of_require required
    refine ⟨name.bytes, below, ?_⟩
    rw [below, List.mem_append, Lookup.mem_buildDir (by decide) (by decide), List.mem_cons]
    simp [show newline ≠ slash by decide]
  · rw [written]
    obtain ⟨lines, read, least, exact_iff⟩ := Assignments.exists_lines?_write overrides.values.entries
    exact ⟨lines, read, least, exact_iff.trans free_iff⟩
  · rw [written, Assignments.read?_write_iff, fits_iff]
  · rintro command (⟨args, rfl⟩ | ⟨path, rfl⟩)
    · rw [applyTo_renderCommand]
      rfl
    · rw [applyTo_showCommand]
      rfl

theorem textual_oneOutput (dir : Bytes) : Lookup.Textual (Lookup.oneOutput dir) dir := by
  intro items name listed mem
  have all : items = [.ok Lookup.outputName] := by
    simpa [Lookup.oneOutput, Lookup.oneDirectory, eq_comm] using listed
  rw [all, List.mem_singleton] at mem
  rw [Except.ok.inj mem]
  decide

/-- On a platform that is asked for. -/
theorem envText_read_back_of_requested :
    let files := Lookup.oneOutput (Bytes.ascii "/r/build")
    let config : Config := ⟨Bytes.ascii "/r/wrench", Bytes.ascii "cargo", .windows⟩
    ∃ text, envText files config (some .macos) = .ok text ∧
      ∃ overrides output, Preview files config .macos text overrides output ∧ newline ∉ output := by
  intro files config
  have supported : ((some Platform.macos).getD config.platform).supported = true := rfl
  have dir : Lookup.buildDir config.wrenchBin = Bytes.ascii "/r/build" := by decide
  have textual : Lookup.Textual files (Lookup.buildDir config.wrenchBin) := dir ▸ textual_oneOutput _
  have found : Lookup.require files Rendering.package config.wrenchBin =
    .ok (Bytes.ascii "/r/build/osmesa-src-7") := by decide +kernel
  obtain ⟨overrides, rendered, -⟩ := exists_envText supported found (by decide)
  obtain ⟨overrides', output, preview⟩ :=
    envText_read_back files config (some .macos) overrides.text supported (by decide) textual rendered
  have same : output = Bytes.ascii "/r/build/osmesa-src-7" := Except.ok.inj (preview.required.symm.trans found)
  have free : newline ∉ output := same ▸ by decide
  exact ⟨overrides.text, rendered, overrides', output, preview, free⟩

/-- A newline in the path of the binary makes three lines of two variables, and what is read of them is
nothing. -/
theorem envText_of_broken_line :
    let files := Lookup.oneOutput (Bytes.ascii "a\nb/build")
    let config : Config := ⟨Bytes.ascii "a\nb/wrench", Bytes.ascii "cargo", .linux⟩
    Utf8.isText config.wrenchBin = true ∧ Lookup.Textual files (Lookup.buildDir config.wrenchBin) ∧
      ∃ text overrides, envText files config none = .ok text ∧
        Rendering.configure files .linux config.wrenchBin = .ok overrides ∧ overrides.size = 2 ∧
        Assignments.lines? (Bytes.ofText text) = some (["GALLIUM_DRIVER=softpipe", "LD_LIBRARY_PATH=a",
          "b/build/osmesa-src-7/out/lib/gallium"].map Bytes.ascii) ∧
        Assignments.read? (Bytes.ofText text) = none := by
  intro files config
  have supported : ((none : Option Platform).getD config.platform).supported = true := rfl
  have found : Lookup.require files Rendering.package config.wrenchBin =
    .ok (Bytes.ascii "a\nb/build/osmesa-src-7") := by decide +kernel
  obtain ⟨overrides, rendered, configured, entries⟩ := exists_envText supported found (by decide)
  have text : Utf8.isText (Bytes.ascii "a\nb/build/osmesa-src-7") = true := by decide
  have written := Rendering.ofText_of_settings supported text entries
  have size : overrides.size = 2 := congrArg List.length entries
  rw [entries] at written
  have lines : Assignments.lines? (Bytes.ofText overrides.text) = some (["GALLIUM_DRIVER=softpipe",
      "LD_LIBRARY_PATH=a", "b/build/osmesa-src-7/out/lib/gallium"].map Bytes.ascii) := by
    rw [written]
    rfl
  have binary : Utf8.isText config.wrenchBin = true := by decide
  have dir : Lookup.buildDir config.wrenchBin = Bytes.ascii "a\nb/build" := by decide
  have textual : Lookup.Textual files (Lookup.buildDir config.wrenchBin) := dir ▸ textual_oneOutput _
  refine ⟨binary, textual, _, overrides, rendered, configured, size, lines, ?_⟩
  rw [Assignments.read?, lines]
  rfl

end Offscreen.Tool
