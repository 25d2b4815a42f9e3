import Offscreen.Path

/-!
# Joining paths

What `join` and `descend` put between a directory and what lies below it. A relative path comes
after its directory with at most one slash between them (`join_eq_append`), so the joined path ends
as the relative one does. Below a directory that does not end in a slash, `descend` writes one slash
before each name (`descend_eq_append`).
-/

namespace Offscreen.Path
set_option autoImplicit false

/-- A directory that a name can follow behind one slash. -/
structure Open (directory : Bytes) : Prop where
  nonempty : directory ≠ []
  ends : directory.getLast? ≠ some slash

/-- A name that stands between two slashes of a path. -/
structure Segment (name : Bytes) : Prop where
  nonempty : name ≠ []
  slash_not_mem : slash ∉ name

instance (name : Bytes) : Decidable (Segment name) :=
  decidable_of_iff (name ≠ [] ∧ slash ∉ name) ⟨fun h => ⟨h.1, h.2⟩, fun h => ⟨h.nonempty, h.slash_not_mem⟩⟩

theorem isAbsolute_of_slash_not_mem {path : Bytes} (h : slash ∉ path) : isAbsolute path = false := by
  cases path with
  | nil => rfl
  | cons b rest =>
    have : b ≠ slash := fun e => h (e ▸ List.mem_cons_self)
    simpa [isAbsolute] using this

/-- A relative path comes after its directory, with at most one slash between them. -/
theorem join_eq_append {path : Bytes} (directory : Bytes) (relative : isAbsolute path = false) :
    ∃ between, (between = [] ∨ between = [slash]) ∧ join directory path = directory ++ between ++ path := by
  simp only [join, relative, Bool.false_eq_true, if_false]
  split
  · exact ⟨[], .inl rfl, by simp⟩
  · exact ⟨[slash], .inr rfl, by simp⟩

theorem join_open {directory path : Bytes} (h : Open directory) (relative : isAbsolute path = false) :
    join directory path = directory ++ slash :: path := by
  have : ¬(directory = [] ∨ directory.getLast? = some slash) := fun c => c.elim h.nonempty h.ends
  simp [join, relative, this]

theorem Segment.getLast?_ne {name : Bytes} (h : Segment name) : name.getLast? ≠ some slash :=
  fun e => h.slash_not_mem (List.mem_of_getLast? e)

/-- What ends in a segment is open to further names. -/
theorem Segment.open_append {name : Bytes} (h : Segment name) (front : Bytes) : Open (front ++ name) where
  nonempty := List.append_ne_nil_of_right_ne_nil front h.nonempty
  ends := by
    have last : name.getLast?.isSome := List.getLast?_isSome.2 h.nonempty
    rw [List.getLast?_append, Option.or_of_isSome last]
    exact h.getLast?_ne

/-- A joined path is open when a segment was joined, whatever the directory. -/
theorem open_join {name : Bytes} (h : Segment name) (directory : Bytes) : Open (join directory name) := by
  obtain ⟨between, -, e⟩ := join_eq_append directory (isAbsolute_of_slash_not_mem h.slash_not_mem)
  exact e ▸ h.open_append (directory ++ between)

/-- A byte other than a slash stands in a joined path if it stands in one of the parts. -/
theorem mem_join {b : UInt8} (ne : b ≠ slash) {path : Bytes} (directory : Bytes)
    (relative : isAbsolute path = false) : b ∈ join directory path ↔ b ∈ directory ∨ b ∈ path := by
  obtain ⟨between, h, e⟩ := join_eq_append directory relative
  rcases h with rfl | rfl <;> simp [e, ne]

/-- Below an open directory each name of a descent stands behind one slash. -/
theorem descend_eq_append {names : List Bytes} (segments : ∀ name ∈ names, Segment name) :
    ∀ {directory : Bytes}, Open directory →
      descend directory names = directory ++ names.flatMap (slash :: ·) := by
  induction names with
  | nil => simp [descend]
  | cons name rest ih =>
    intro directory h
    have segment := segments name List.mem_cons_self
    have joined := join_open h (isAbsolute_of_slash_not_mem segment.slash_not_mem)
    have later := ih (fun n mem => segments n (List.mem_cons_of_mem _ mem)) (open_join segment directory)
    calc descend directory (name :: rest) = descend (join directory name) rest := rfl
      _ = join directory name ++ rest.flatMap (slash :: ·) := later
      _ = directory ++ (name :: rest).flatMap (slash :: ·) := by simp [joined]

end Offscreen.Path
