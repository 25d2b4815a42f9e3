import Offscreen.Proofs.Launches
import Offscreen.Proofs.Preview

/-!
# Platforms with and without a setup

Whether a setup of software rendering is known divides the platforms in two. Without one, nothing is set
and nothing of the files matters: `env` prints its note, and no command that is attempted changes a
variable. With one, a setup that succeeds sets two variables, and `env` prints them or fails as the setup
does. So the note is printed exactly where there is nothing to set (`support_decides`).
-/

namespace Offscreen.Tool
set_option autoImplicit false

/-- What `env` prints on a platform without a setup. -/
def setupNote (platform : Platform) : String :=
  "# Software rendering is not configured on " ++ platform.name ++ "; wrench inherits the current environment\n"

section

variable {files : Files} {config : Config} {platform : Platform} {binary : Bytes}

/-! ## Without a setup -/

theorem configure_of_unsupported (unsupported : platform.supported = false) (files : Files) (binary : Bytes) :
    Rendering.configure files platform binary = .ok .empty := by
  cases platform with
  | windows | other => rfl
  | linux | macos => cases unsupported

theorem envText_of_unsupported {requested : Option Platform}
    (unsupported : (requested.getD config.platform).supported = false) :
    envText files config requested = .ok (setupNote (requested.getD config.platform)) := by
  simp only [envText, unsupported, Bool.false_eq_true, if_false]
  rfl

theorem builders_changes {config : Config} {action : Action} {command : Command}
    (mem : command ∈ builders config action) : command.changes = ∅ := by
  cases action with
  | run skipBuild features args =>
    cases skipBuild with
    | true => cases mem
    | false =>
      rw [List.mem_singleton.1 mem]
      rfl
  | reftest | env => cases mem

/-- What is attempted without a setup changes no variable. -/
theorem changes_of_unsupported {σ : Type} {host : Host σ} {action : Action} {start : σ} {command : Command}
    (unsupported : config.platform.supported = false)
    (mem : command ∈ (perform host config action start).2.launches) : command.changes = ∅ := by
  obtain ⟨rendered, split, renders⟩ := launches_split host config action start
  rw [split] at mem
  rcases List.mem_append.1 mem with built | mem
  · exact builders_changes built
  · obtain ⟨overrides, words, ready, rfl⟩ := renders command mem
    have empty : overrides = .empty := by
      rw [setup, configure_of_unsupported unsupported] at ready
      exact (Except.ok.inj ready).symm
    rw [empty]
    rfl

/-! ## With a setup -/

theorem size_of_supported {overrides : Overrides} (supported : platform.supported = true)
    (configured : Rendering.configure files platform binary = .ok overrides) : overrides.size = 2 := by
  obtain ⟨output, -, entries⟩ := Rendering.configure_eq_ok supported configured
  have held : (Rendering.settings platform output).length = 2 := by
    cases platform with
    | linux | macos => rfl
    | windows | other => cases supported
  rw [← held, ← entries]
  rfl

theorem envText_of_supported {requested : Option Platform}
    (supported : (requested.getD config.platform).supported = true) :
    envText files config requested =
      (Rendering.configure files (requested.getD config.platform) config.wrenchBin).map Overrides.text := by
  simp only [envText, supported, if_true]

/-- The note begins with a number sign. -/
theorem head?_setupNote (platform : Platform) : (setupNote platform).toList.head? = some '#' := by
  cases platform <;> decide +kernel

/-- The text of the variables begins with the name of one of them. -/
theorem head?_text {overrides : Overrides} (supported : platform.supported = true)
    (configured : Rendering.configure files platform binary = .ok overrides) :
    overrides.text.toList.head? = some 'G' ∨ overrides.text.toList.head? = some 'D' := by
  obtain ⟨output, -, entries⟩ := Rendering.configure_eq_ok supported configured
  rw [Overrides.text, String.toList_ofList, Overrides.lines, entries]
  cases platform with
  | linux =>
    have first : (Utf8.lossy (Bytes.ascii "GALLIUM_DRIVER")).head? = some 'G' := by decide
    left
    simp only [Rendering.settings, List.flatMap_cons, Overrides.line, List.head?_append, first,
      Option.some_or]
  | macos =>
    have first : (Utf8.lossy (Bytes.ascii "DYLD_LIBRARY_PATH")).head? = some 'D' := by decide
    right
    simp only [Rendering.settings, List.flatMap_cons, Overrides.line, List.head?_append, first,
      Option.some_or]
  | windows | other => cases supported

theorem text_ne_setupNote {overrides : Overrides} (supported : platform.supported = true)
    (configured : Rendering.configure files platform binary = .ok overrides) : overrides.text ≠ setupNote platform := by
  intro same
  have first := head?_text supported configured
  rw [same, head?_setupNote] at first
  revert first
  decide

/-- The note stands for the lack of variables. -/
theorem envText_eq_setupNote_iff {requested : Option Platform} :
    envText files config requested = .ok (setupNote (requested.getD config.platform)) ↔
      Rendering.configure files (requested.getD config.platform) config.wrenchBin = .ok .empty := by
  cases supported : (requested.getD config.platform).supported with
  | false =>
    rw [envText_of_unsupported supported, configure_of_unsupported supported]
    exact ⟨fun _ => rfl, fun _ => rfl⟩
  | true =>
    constructor
    · intro noted
      obtain ⟨overrides, configured, text⟩ := envText_eq_ok supported noted
      exact absurd text (text_ne_setupNote supported configured)
    · intro configured
      cases size_of_supported supported configured

end

variable (platform : Platform) in
/-- What there is on a platform without a setup, whatever the files hold. -/
structure Unsupported : Prop where
  configured : ∀ files binary, Rendering.configure files platform binary = .ok .empty
  noted : ∀ files config requested, requested.getD config.platform = platform →
    envText files config requested = .ok (setupNote platform)
  unchanged : ∀ (σ : Type) (host : Host σ) config action start, config.platform = platform →
    ∀ command ∈ (perform host config action start).2.launches, command.changes = ∅

variable (platform : Platform) in
/-- What there is on a platform with a setup. -/
structure Supported : Prop where
  size : ∀ files binary overrides, Rendering.configure files platform binary = .ok overrides → overrides.size = 2
  shown_iff : ∀ files config requested, requested.getD config.platform = platform → ∀ text,
    envText files config requested = .ok text ↔
      ∃ overrides, Rendering.configure files platform config.wrenchBin = .ok overrides ∧ overrides.text = text
  fails_iff : ∀ files config requested, requested.getD config.platform = platform → ∀ fault,
    envText files config requested = .error fault ↔
      Rendering.configure files platform config.wrenchBin = .error fault

/-- **Support decides.** Nothing is set on a platform without a setup, and two variables are on one with a
setup. What `env` prints agrees, and it prints its note exactly where there is nothing to set. -/
theorem support_decides (platform : Platform) :
    (platform.supported = false → Unsupported platform) ∧ (platform.supported = true → Supported platform) ∧
      ∀ files config requested, requested.getD config.platform = platform →
        (envText files config requested = .ok (setupNote platform) ↔
          Rendering.configure files platform config.wrenchBin = .ok .empty) := by
  refine ⟨fun unsupported => ⟨?_, ?_, ?_⟩, fun supported => ⟨?_, ?_, ?_⟩, ?_⟩
  · exact configure_of_unsupported unsupported
  · rintro files config requested rfl
    exact envText_of_unsupported unsupported
  · rintro σ host config action start rfl command mem
    exact changes_of_unsupported unsupported mem
  · intro files binary overrides configured
    exact size_of_supported supported configured
  · rintro files config requested rfl text
    rw [envText_of_supported supported]
    cases Rendering.configure files (requested.getD config.platform) config.wrenchBin <;> simp [Except.map]
  · rintro files config requested rfl fault
    rw [envText_of_supported supported]
    cases Rendering.configure files (requested.getD config.platform) config.wrenchBin <;> simp [Except.map]
  · rintro files config requested rfl
    exact envText_eq_setupNote_iff

end Offscreen.Tool
