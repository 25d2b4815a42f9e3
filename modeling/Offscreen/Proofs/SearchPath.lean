import Offscreen.SearchPath
import Offscreen.Proofs.Bytes

/-!
# Search paths and their directories

A list of directories makes a search path unless one of them holds a colon
(`ofDirectories_eq_ok_iff`), and the search path then lists exactly these directories
(`directories_of_ok`). Every byte string is the search path of the directories that it lists
(`ofDirectories_directories`), so search paths and lists of directories say the same
(`search_path_unambiguous`).
-/

namespace Offscreen.SearchPath
set_option autoImplicit false

variable {dirs : List Bytes} {path : Bytes}

theorem ofDirectories_eq_ok_iff :
    ofDirectories dirs = .ok path ↔ (∀ dir ∈ dirs, colon ∉ dir) ∧ [colon].intercalate dirs = path := by
  unfold ofDirectories
  by_cases h : ∃ dir ∈ dirs, colon ∈ dir
  · obtain ⟨dir, mem, held⟩ := h
    have rejected : (dirs.any fun dir => decide (colon ∈ dir)) = true :=
      List.any_eq_true.2 ⟨dir, mem, decide_eq_true held⟩
    rw [if_pos rejected]
    exact ⟨nofun, fun ⟨free, _⟩ => absurd held (free dir mem)⟩
  · simp only [List.any_eq_true, decide_eq_true_eq, h, if_false, Except.ok.injEq, iff_and_self]
    exact fun _ dir mem held => h ⟨dir, mem, held⟩

theorem ofDirectories_eq_error_iff {fault : Fault} :
    ofDirectories dirs = .error fault ↔ (∃ dir ∈ dirs, colon ∈ dir) ∧ .invalidSearchPath dirs = fault := by
  unfold ofDirectories
  by_cases h : ∃ dir ∈ dirs, colon ∈ dir <;> simp [h]

/-- A search path that could be made lists the directories that it was made of. -/
theorem directories_of_ok (nonempty : dirs ≠ []) (h : ofDirectories dirs = .ok path) :
    directories path = dirs := by
  obtain ⟨free, rfl⟩ := ofDirectories_eq_ok_iff.1 h
  exact List.splitOn_intercalate colon free nonempty

theorem ofDirectories_directories (path : Bytes) : ofDirectories (directories path) = .ok path :=
  ofDirectories_eq_ok_iff.2 ⟨fun _ => Bytes.not_mem_of_mem_splitOn, List.intercalate_splitOn colon⟩

/-- The only search path of some directories is the one that lists them. -/
theorem ofDirectories_eq_ok_iff_directories (nonempty : dirs ≠ []) :
    ofDirectories dirs = .ok path ↔ directories path = dirs := by
  constructor
  · exact directories_of_ok nonempty
  · rintro rfl
    exact ofDirectories_directories path

/-- **Search paths are unambiguous.** Directories make a search path unless a colon stands in one of them.
It lists them and no other directories make it. Directories that make none are all named in the fault. -/
theorem search_path_unambiguous (dirs : List Bytes) (nonempty : dirs ≠ []) :
    ((∃ path, ofDirectories dirs = .ok path) ↔ ∀ dir ∈ dirs, colon ∉ dir) ∧
    (∀ path, ofDirectories dirs = .ok path ↔ directories path = dirs) ∧
    (∀ path others, ofDirectories dirs = .ok path → others ≠ [] → ofDirectories others = .ok path →
      others = dirs) ∧
    ∀ fault, ofDirectories dirs = .error fault → fault = .invalidSearchPath dirs := by
  refine ⟨?_, fun path => ofDirectories_eq_ok_iff_directories nonempty, ?_, ?_⟩
  · simp only [ofDirectories_eq_ok_iff, exists_and_left, exists_eq', and_true]
  · intro path others made nonempty' made'
    have listed := directories_of_ok nonempty made
    have listed' := directories_of_ok nonempty' made'
    exact listed'.symm.trans listed
  · intro fault failed
    exact (ofDirectories_eq_error_iff.1 failed).2.symm

/-- Empty directories at both ends and in between count as any other. -/
theorem search_path_unambiguous_of_empty :
    let dirs : List Bytes := [[], [0xff], [], []]
    dirs ≠ [] ∧ ofDirectories dirs = .ok [colon, 0xff, colon, colon] ∧
      directories [colon, 0xff, colon, colon] = dirs := by
  intro dirs
  have nonempty : dirs ≠ [] := by decide
  obtain ⟨-, made_iff, -⟩ := search_path_unambiguous dirs nonempty
  exact ⟨nonempty, rfl, (made_iff _).1 rfl⟩

end Offscreen.SearchPath
