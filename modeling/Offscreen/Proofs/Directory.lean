import Offscreen.Lookup
import Offscreen.Proofs.Path
import Offscreen.Proofs.Utf8
import Mathlib.Data.List.TakeWhile

/-!
# The directory of a path

Trimming takes away ends of a path that name nothing (`trim_induction`), so the trimmed path is made of the
same components. A path that ends in a name, behind a slash, is made of what the directory of the
binary is made of and of that name (`components_binaryDir`). The directory of a path that is text is
text (`isText_binaryDir`).
-/

namespace Offscreen.Path
set_option autoImplicit false

variable {path front name : Bytes}

/-! ## Trimming -/

/-- What holds of a path, and passes on when an end that names nothing is taken away, holds of the trimmed
path. -/
theorem trim_induction {P : Bytes → Prop} (slashed : ∀ path, path ≠ [] → P (path ++ [slash]) → P path)
    (dotted : ∀ path, P (path ++ [slash, dot]) → P (path ++ [slash])) (h : P path) : P (trim path) := by
  have reversed : ∀ path : Bytes, P path.reverse → P (trimReversed path).reverse := by
    intro path
    induction path using trimReversed.induct with
    | case1 => exact id
    | case2 b => exact id
    | case3 c rest ih =>
      intro h
      rw [trimReversed, if_pos rfl]
      refine ih (slashed _ (by simp) ?_)
      simpa using h
    | case4 b c rest ne both ih =>
      obtain ⟨rfl, rfl⟩ := both
      intro h
      rw [trimReversed, if_neg ne, if_pos ⟨rfl, rfl⟩]
      refine ih ?_
      rw [List.reverse_cons]
      exact dotted _ (by simpa using h)
    | case5 b c rest ne nor =>
      rw [trimReversed, if_neg ne, if_neg nor]
      exact id
  exact reversed path.reverse (by rwa [List.reverse_reverse])

/-- A bare name has nothing to trim. -/
theorem trim_of_slash_not_mem (bare : slash ∉ path) : trim path = path := by
  have kept : trimReversed path.reverse = path.reverse := by
    have bare : slash ∉ path.reverse := by simpa using bare
    cases ends : path.reverse with
    | nil => rfl
    | cons b rest =>
      cases rest with
      | nil => rfl
      | cons c rest =>
        rw [ends] at bare
        simp only [List.mem_cons, not_or] at bare
        simp [trimReversed, Ne.symm bare.1, Ne.symm bare.2.1]
  rw [trim, kept, List.reverse_reverse]

theorem trim_ne_nil (nonempty : path ≠ []) : trim path ≠ [] := by
  have kept : trim path ≠ [] ∨ path = [] := by
    refine trim_induction (P := fun p => p ≠ [] ∨ path = []) ?_ ?_ (.inl nonempty)
    · exact fun _ ne _ => .inl ne
    · exact fun _ _ => .inl (by simp)
  exact kept.resolve_right nonempty

/-! ## What a trimmed path is made of -/

/-- The stretches between slashes of a path with one more stretch behind it. -/
theorem splitOn_append_slash (front : Bytes) (apart : slash ∉ name) :
    (front ++ slash :: name).splitOn slash = front.splitOn slash ++ [name] := by
  have single : name.splitOn slash = [name] := List.splitOn_eq_singleton (by simpa using apart)
  rw [List.splitOn_append_cons_self, single]

theorem splitOn_ne_singleton_nil (nonempty : path ≠ []) : path.splitOn slash ≠ [[]] := by
  intro single
  have whole : [slash].intercalate (path.splitOn slash) = path := List.intercalate_splitOn slash
  rw [single] at whole
  exact nonempty whole.symm

/-- A further stretch is a further name, or none where it names nothing. -/
theorem components_append_slash (nonempty : front ≠ []) (apart : slash ∉ name) :
    components (front ++ slash :: name) = components front ++ names [name] := by
  have split := splitOn_append_slash front apart
  have single := splitOn_ne_singleton_nil nonempty
  simp only [components, split]
  cases stretches : front.splitOn slash with
  | nil => exact absurd stretches (List.splitOn_ne_nil slash front)
  | cons first rest =>
    have same : leading (first :: (rest ++ [name])) = leading (first :: rest) := by
      by_cases empty : first = []
      · have more : rest ≠ [] := by
          rintro rfl
          exact single (by rw [stretches, empty])
        simp [leading, empty, more]
      · simp [leading, empty]
    simp [same, names]

/-- A slash at the end names nothing. -/
theorem components_append_singleton (nonempty : front ≠ []) : components (front ++ [slash]) = components front := by
  have more : components (front ++ slash :: []) = components front ++ names [[]] :=
    components_append_slash nonempty List.not_mem_nil
  have none : names [[]] = [] := rfl
  rw [more, none, List.append_nil]

/-- A dot behind a slash at the end names nothing. -/
theorem components_append_dot (front : Bytes) : components (front ++ [slash, dot]) = components (front ++ [slash]) := by
  by_cases nonempty : front = []
  · subst nonempty
    rfl
  · have dotted : components (front ++ slash :: [dot]) = components front ++ names [[dot]] :=
      components_append_slash nonempty (by decide)
    have none : names [[dot]] = [] := rfl
    rw [components_append_singleton nonempty, dotted, none, List.append_nil]

theorem components_trim (path : Bytes) : components (trim path) = components path := by
  refine trim_induction (P := fun p => components p = components path) ?_ ?_ rfl
  · intro p nonempty same
    rw [← same, components_append_singleton nonempty]
  · intro p same
    rw [← same, components_append_dot]

/-! ## The last name of a path -/

/-- A name that does not stand for the directory that it is in. -/
structure Proper (name : Bytes) : Prop extends Segment name where
  ne_dot : name ≠ [dot]

theorem Proper.names_singleton (proper : Proper name) : names [name] = [.name name] := by
  simp [names, proper.nonempty, proper.ne_dot]

/-- A path that ends in a proper name is made of what stands before the name, and of the name. -/
theorem components_append_name (proper : Proper name) (front : Bytes) :
    components (front ++ slash :: name) = components (front ++ [slash]) ++ [.name name] := by
  have last := proper.names_singleton
  by_cases nonempty : front = []
  · subst nonempty
    have split : ([] ++ slash :: name : Bytes).splitOn slash = [[], name] :=
      splitOn_append_slash [] proper.slash_not_mem
    have root : components ([] ++ [slash]) = [.root] := by decide
    rw [root, components, split]
    simp [leading, last]
  · rw [components_append_slash nonempty proper.slash_not_mem, components_append_singleton nonempty, last]

/-- There is nothing to trim behind a proper name. -/
theorem trim_append_slash (proper : Proper name) : trim (front ++ slash :: name) = front ++ slash :: name := by
  have kept : trimReversed (front ++ slash :: name).reverse = (front ++ slash :: name).reverse := by
    obtain ⟨⟨nonempty, apart⟩, ne_dot⟩ := proper
    have nonempty : name.reverse ≠ [] := by simpa using nonempty
    have apart : slash ∉ name.reverse := by simpa using apart
    have ne_dot : name.reverse ≠ [dot] := fun same => ne_dot (by simpa using congrArg List.reverse same)
    rw [List.reverse_append, List.reverse_cons]
    cases ends : name.reverse with
    | nil => exact absurd ends nonempty
    | cons b rest =>
      rw [ends] at apart ne_dot
      obtain ⟨last, others⟩ := not_or.1 (mt List.mem_cons.2 apart)
      cases rest with
      | nil =>
        have other : b ≠ dot := fun same => ne_dot (by rw [same])
        simp [trimReversed, Ne.symm last, other]
      | cons c rest =>
        have next : c ≠ slash := fun same => others (same ▸ List.mem_cons_self)
        simp [trimReversed, Ne.symm last, next]
  rw [trim, kept, List.reverse_reverse]

theorem dropWhile_reverse_eq_nil (apart : slash ∉ name) : name.reverse.dropWhile (· ≠ slash) = [] := by
  rw [List.dropWhile_eq_nil_iff]
  intro b mem
  have ne : b ≠ slash := fun same => apart (same ▸ List.mem_reverse.1 mem)
  simpa using ne

theorem dropLast_of_slash_not_mem (apart : slash ∉ name) : dropLast name = [] := by
  rw [dropLast, dropWhile_reverse_eq_nil apart, List.reverse_nil]

theorem dropLast_append_slash (apart : slash ∉ name) : dropLast (front ++ slash :: name) = front ++ [slash] := by
  rw [dropLast, List.reverse_append, List.reverse_cons, List.append_assoc, List.dropWhile_append,
    dropWhile_reverse_eq_nil apart]
  simp

/-- A path that holds a slash has a last one. -/
theorem exists_eq_append_slash (held : slash ∈ path) : ∃ front name, path = front ++ slash :: name ∧ slash ∉ name := by
  obtain ⟨after, before, split, apart⟩ := List.eq_append_cons_of_mem (List.mem_reverse.2 held)
  refine ⟨before.reverse, after.reverse, ?_, by simpa using apart⟩
  rw [← path.reverse_reverse, split]
  simp

theorem parent?_append_slash (proper : Proper name) :
    parent? (front ++ slash :: name) = some (trim (front ++ [slash])) := by
  have more : ¬(front ++ slash :: name = [] ∨ front ++ slash :: name = [slash]) := by
    rintro (none | one)
    · simp at none
    · have short := congrArg List.length one
      have long := List.length_pos_iff.2 proper.nonempty
      simp at short
      omega
  simp only [parent?, trim_append_slash proper, if_neg more, dropLast_append_slash proper.slash_not_mem]

/-- Nothing stands before a bare name. -/
theorem parent?_of_slash_not_mem (nonempty : path ≠ []) (bare : slash ∉ path) : parent? path = some [] := by
  have more : ¬(path = [] ∨ path = [slash]) := by
    rintro (none | rfl)
    · exact nonempty none
    · exact bare List.mem_cons_self
  simp only [parent?, trim_of_slash_not_mem bare, if_neg more, dropLast_of_slash_not_mem bare]
  rfl

/-! ## Paths that are text -/

theorem isText_append_slash (front name : Bytes) :
    Utf8.isText (front ++ slash :: name) = true ↔ Utf8.isText front = true ∧ Utf8.isText name = true :=
  Utf8.isText_append_ascii (by decide) front name

theorem isText_trim (h : Utf8.isText path = true) : Utf8.isText (trim path) = true := by
  refine trim_induction (P := fun p => Utf8.isText p = true) (fun p _ h => ?_) (fun p h => ?_) h
  · exact ((isText_append_slash p []).1 h).1
  · have front := ((isText_append_slash p [dot]).1 h).1
    exact (isText_append_slash p []).2 ⟨front, rfl⟩

theorem isText_dropLast (h : Utf8.isText path = true) : Utf8.isText (dropLast path) = true := by
  by_cases held : slash ∈ path
  · obtain ⟨front, name, rfl, apart⟩ := exists_eq_append_slash held
    rw [dropLast_append_slash apart]
    exact (isText_append_slash front []).2 ⟨((isText_append_slash front name).1 h).1, rfl⟩
  · rw [dropLast_of_slash_not_mem held]
    rfl

theorem isText_parent? {directory : Bytes} (h : Utf8.isText path = true) (parent : parent? path = some directory) :
    Utf8.isText directory = true := by
  unfold parent? at parent
  dsimp only at parent
  split at parent
  · cases parent
  · obtain rfl := Option.some.inj parent
    exact isText_trim (isText_dropLast (isText_trim h))

end Offscreen.Path

namespace Offscreen.Lookup

variable {front name : Bytes}

theorem binaryDir_append_slash (proper : Path.Proper name) :
    binaryDir (front ++ slash :: name) = Path.trim (front ++ [slash]) := by
  have last : (front ++ slash :: name).getLast? ≠ some slash := by
    have ends := (proper.open_append (front ++ [slash])).ends
    rwa [List.append_assoc] at ends
  have nonempty : Path.trim (front ++ [slash]) ≠ [] := Path.trim_ne_nil (by simp)
  rw [binaryDir, if_neg last, Path.parent?_append_slash proper]
  cases directory : Path.trim (front ++ [slash]) with
  | nil => exact absurd directory nonempty
  | cons b rest => rfl

/-- The path of a binary is made of what its directory is made of, and of its name. -/
theorem components_binaryDir (proper : Path.Proper name) :
    Path.components (front ++ slash :: name) =
      Path.components (binaryDir (front ++ slash :: name)) ++ [.name name] := by
  rw [binaryDir_append_slash proper, Path.components_trim]
  exact Path.components_append_name proper front

/-- A bare name lies in the current directory. -/
theorem binaryDir_of_slash_not_mem {binary : Bytes} (bare : slash ∉ binary) : binaryDir binary = [dot] := by
  have last : binary.getLast? ≠ some slash := fun ends => bare (List.mem_of_getLast? ends)
  rw [binaryDir, if_neg last]
  by_cases empty : binary = []
  · rw [empty]
    rfl
  · rw [Path.parent?_of_slash_not_mem empty bare]

theorem isText_binaryDir {binary : Bytes} (h : Utf8.isText binary = true) :
    Utf8.isText (binaryDir binary) = true := by
  unfold binaryDir
  split
  · exact h
  · split
    · rfl
    · rfl
    · exact Path.isText_parent? h ‹_›

theorem isText_buildDir {binary : Bytes} (h : Utf8.isText binary = true) : Utf8.isText (buildDir binary) = true := by
  have relative : Path.isAbsolute (Bytes.ascii "build") = false := rfl
  obtain ⟨between, shape, same⟩ := Path.join_eq_append (binaryDir binary) relative
  rw [buildDir, same]
  have directory := isText_binaryDir h
  have ascii : ∀ b ∈ between ++ Bytes.ascii "build", b < 0x80 := by
    rcases shape with rfl | rfl <;> decide +kernel
  rw [List.append_assoc]
  exact Utf8.isText_append_of_ascii directory ascii

end Offscreen.Lookup
