import Offscreen.Proofs.Directory

/-!
# The directory of a binary, exactly

Without the ends that name nothing a path is a bare name, the root, or ends in a name of its own
(`trimmed_trim`). So the directory of a binary whose path does not end in a slash is a beginning of that
path, made of all its components but the last one, and where no component is left it is the current
directory (`located`). A path that ends in a slash is its own directory (`binaryDir_exact`).
-/

namespace Offscreen.Path
set_option autoImplicit false

variable {path front name : Bytes}

/-! ## Trimmed paths -/

/-- What is left of a path without the ends that name nothing. -/
inductive Trimmed : Bytes → Prop where
  | bare (path : Bytes) (apart : slash ∉ path) : Trimmed path
  | root : Trimmed [slash]
  | named (front name : Bytes) (proper : Proper name) : Trimmed (front ++ slash :: name)

/-- A path that ends neither in a slash nor in a dot behind one has nothing to trim. -/
theorem trimmed_of_ends {b c : UInt8} {rest : Bytes} (last : b ≠ slash) (ends : ¬(b = dot ∧ c = slash)) :
    Trimmed (b :: c :: rest).reverse := by
  by_cases held : slash ∈ (b :: c :: rest).reverse
  · obtain ⟨front, name, split, apart⟩ := exists_eq_append_slash held
    have reversed : b :: c :: rest = name.reverse ++ slash :: front.reverse := by
      rw [← List.reverse_reverse (b :: c :: rest), split]
      simp
    have proper : Proper name := by
      refine ⟨⟨?_, apart⟩, ?_⟩
      · rintro rfl
        exact last (List.cons.inj reversed).1
      · rintro rfl
        obtain ⟨first, others⟩ := List.cons.inj reversed
        exact ends ⟨first, (List.cons.inj others).1⟩
    rw [split]
    exact .named front name proper
  · exact .bare _ held

theorem trimmed_trim (path : Bytes) : Trimmed (trim path) := by
  have reversed : ∀ path : Bytes, Trimmed (trimReversed path).reverse := by
    intro path
    induction path using trimReversed.induct with
    | case1 => exact .bare _ List.not_mem_nil
    | case2 b =>
      by_cases same : b = slash
      · rw [same]
        exact .root
      · exact .bare _ (by simpa [trimReversed] using Ne.symm same)
    | case3 c rest ih =>
      rwa [trimReversed, if_pos rfl]
    | case4 b c rest ne both ih =>
      rwa [trimReversed, if_neg ne, if_pos both]
    | case5 b c rest ne nor =>
      rw [trimReversed, if_neg ne, if_neg nor]
      exact trimmed_of_ends ne nor
  exact reversed path.reverse

theorem Trimmed.trim_eq (h : Trimmed path) : trim path = path := by
  cases h with
  | bare _ apart => exact trim_of_slash_not_mem apart
  | root => rfl
  | named front name proper => exact trim_append_slash proper

theorem trim_trim (path : Bytes) : trim (trim path) = trim path := (trimmed_trim path).trim_eq

theorem parent?_trim (path : Bytes) : parent? (trim path) = parent? path := by
  simp only [parent?, trim_trim]

theorem trim_prefix (path : Bytes) : trim path <+: path := by
  refine trim_induction (P := fun p => p <+: path) ?_ ?_ (List.prefix_refl path)
  · exact fun p _ h => (List.prefix_append p _).trans h
  · intro p h
    have more : p ++ [slash] <+: p ++ [slash, dot] := ⟨[dot], by simp⟩
    exact more.trans h

/-! ## Few components -/

theorem dropLast_components_of_slash_not_mem (bare : slash ∉ path) : (components path).dropLast = [] := by
  have single : path.splitOn slash = [path] := List.splitOn_eq_singleton bare
  have none : names [] = [] := rfl
  simp only [components, single, List.tail_cons, none, List.append_nil, leading]
  split_ifs <;> rfl

theorem components_ne_nil (nonempty : path ≠ []) : components path ≠ [] := by
  have single := splitOn_ne_singleton_nil nonempty
  simp only [components]
  cases stretches : path.splitOn slash with
  | nil => exact absurd stretches (List.splitOn_ne_nil slash path)
  | cons first rest =>
    have some : leading (first :: rest) ≠ [] := by
      by_cases empty : first = []
      · have more : rest ≠ [] := by
          rintro rfl
          exact single (by rw [stretches, empty])
        simp [leading, empty, more]
      · simp only [leading, if_neg empty]
        split_ifs <;> simp
    exact List.append_ne_nil_of_left_ne_nil some _

/-- An absolute path begins with the root. -/
theorem components_of_isAbsolute (absolute : isAbsolute path = true) : ∃ rest, components path = .root :: rest := by
  obtain ⟨rest, rfl⟩ : ∃ rest, path = slash :: rest := by
    cases path with
    | nil => cases absolute
    | cons b rest => exact ⟨rest, by simpa [isAbsolute] using absolute⟩
  have split : (slash :: rest).splitOn slash = [] :: rest.splitOn slash :=
    List.splitOn_append_cons_self_of_not_mem List.not_mem_nil rest
  refine ⟨names (rest.splitOn slash), ?_⟩
  simp [components, split, leading]

theorem isAbsolute_of_prefix (nonempty : front ≠ []) (begins : front <+: path) :
    isAbsolute front = isAbsolute path := by
  obtain ⟨rest, rfl⟩ := begins
  cases front with
  | nil => exact absurd rfl nonempty
  | cons b front => rfl

/-- A name below a directory is one more component. -/
theorem components_join (nonempty : front ≠ []) (proper : Proper name) :
    components (join front name) = components front ++ [.name name] := by
  have relative := isAbsolute_of_slash_not_mem proper.slash_not_mem
  simp only [join, relative, Bool.false_eq_true, if_false, nonempty, false_or]
  split
  · rename_i last
    obtain ⟨directory, rfl⟩ := List.getLast?_eq_some_iff.1 last
    rw [List.append_assoc]
    exact components_append_name proper directory
  · rw [components_append_name proper, components_append_singleton nonempty]

end Offscreen.Path

namespace Offscreen.Lookup

open Offscreen.Path (components)

variable {binary front name : Bytes}

/-! ## The directory of a binary -/

/-- Where a binary lies whose path does not end in a slash. -/
inductive Located (binary : Bytes) : Prop where
  /-- No component stands before the last one. -/
  | here (short : (components binary).dropLast = []) (dir : binaryDir binary = [dot])
  /-- The directory stands before a name. -/
  | below (name : Bytes) (dir : binaryDir binary ≠ []) (begins : binaryDir binary <+: binary)
      (split : components binary = components (binaryDir binary) ++ [.name name])

/-- The ends of a path that name nothing do not matter, unless nothing but the root stands before them. -/
theorem binaryDir_trim (last : binary.getLast? ≠ some slash) (more : Path.trim binary ≠ [slash]) :
    binaryDir (Path.trim binary) = binaryDir binary := by
  have last' : (Path.trim binary).getLast? ≠ some slash := by
    have trimmed := Path.trimmed_trim binary
    generalize Path.trim binary = path at more trimmed
    cases trimmed with
    | bare _ apart => exact fun ends => apart (List.mem_of_getLast? ends)
    | root => exact absurd rfl more
    | named front name proper =>
      have isOpen := (proper.open_append (front ++ [slash])).ends
      rwa [List.append_assoc] at isOpen
  simp only [binaryDir, if_neg last, if_neg last', Path.parent?_trim]

theorem binaryDir_of_trim_eq_root (last : binary.getLast? ≠ some slash) (root : Path.trim binary = [slash]) :
    binaryDir binary = [dot] := by
  have none : Path.parent? binary = none := by
    rw [← Path.parent?_trim, root]
    rfl
  rw [binaryDir, if_neg last, none]

theorem located (last : binary.getLast? ≠ some slash) : Located binary := by
  by_cases root : Path.trim binary = [slash]
  · refine .here ?_ (binaryDir_of_trim_eq_root last root)
    rw [← Path.components_trim, root]
    rfl
  · have same := binaryDir_trim last root
    have begins := Path.trim_prefix binary
    have trimmed := Path.trimmed_trim binary
    have made := Path.components_trim binary
    generalize Path.trim binary = path at root same begins trimmed made
    cases trimmed with
    | bare _ apart =>
      refine .here ?_ (same ▸ binaryDir_of_slash_not_mem apart)
      rw [← made, Path.dropLast_components_of_slash_not_mem apart]
    | root => exact absurd rfl root
    | named front name proper =>
      refine .below name ?_ ?_ ?_
      · rw [← same, binaryDir_append_slash proper]
        exact Path.trim_ne_nil (by simp)
      · rw [← same, binaryDir_append_slash proper]
        have front : front ++ [slash] <+: front ++ slash :: name := ⟨name, by simp⟩
        exact (Path.trim_prefix _).trans (front.trans begins)
      · rw [← made, ← same]
        exact components_binaryDir proper

theorem binaryDir_of_ends (last : binary.getLast? = some slash) : binaryDir binary = binary := if_pos last

theorem binaryDir_ne_nil (binary : Bytes) : binaryDir binary ≠ [] := by
  by_cases last : binary.getLast? = some slash
  · rw [binaryDir_of_ends last]
    rintro rfl
    cases last
  · cases located last with
    | here _ dir => exact dir ▸ List.cons_ne_nil _ _
    | below _ dir => exact dir

variable (binary) in
/-- What the directory of a binary is, by the components of its path. -/
structure DirectoryForm : Prop where
  /-- The text that is shown for the path ends in a slash just where its bytes do. -/
  ends_iff : (Utf8.lossy binary).getLast? = some '/' ↔ binary.getLast? = some slash
  slashed : binary.getLast? = some slash → binaryDir binary = binary
  /-- All components but the last one are kept, if some are. -/
  inner : binary.getLast? ≠ some slash → (∃ c ∈ components binary, c ≠ .root) →
    (components binary).dropLast ≠ [] →
    binaryDir binary <+: binary ∧ components (binaryDir binary) = (components binary).dropLast
  outer : binary.getLast? ≠ some slash →
    ¬((∃ c ∈ components binary, c ≠ .root) ∧ (components binary).dropLast ≠ []) → binaryDir binary = [dot]
  nonempty : binaryDir binary ≠ []
  build : components (buildDir binary) = components (binaryDir binary) ++ [.name (Bytes.ascii "build")]

/-- **Directory of a binary.** A path that ends in a slash is its own directory. The directory of any other
one is a beginning of the path with all components but the last, or the current directory if none is left. -/
theorem binaryDir_exact (binary : Bytes) : DirectoryForm binary where
  ends_iff := Utf8.getLast?_lossy_iff (a := slash) (by decide)
  slashed := binaryDir_of_ends
  inner last _ rest := by
    cases located last with
    | here short => exact absurd short rest
    | below name dir begins split =>
      refine ⟨begins, ?_⟩
      rw [split, List.dropLast_concat]
  outer last few := by
    cases located last with
    | here _ dir => exact dir
    | below name dir begins split =>
      refine absurd ⟨⟨.name name, ?_, nofun⟩, ?_⟩ few
      · rw [split]
        exact List.mem_append_right _ List.mem_cons_self
      · rw [split, List.dropLast_concat]
        exact Path.components_ne_nil dir
  nonempty := binaryDir_ne_nil binary
  build := Path.components_join (binaryDir_ne_nil binary) ⟨⟨by decide, by decide⟩, by decide⟩

end Offscreen.Lookup
