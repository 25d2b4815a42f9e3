import Offscreen.Proofs.Selection
import Offscreen.Proofs.Walk
import Offscreen.Scratch.Stage

/-!
# Directories among the entries of a package

A lookup reads the names and the times of entries and never asks what an entry is. So what it selects stands
among the files, but is a directory only by its time: if a directory is newer than all entries that are none,
a directory is selected, and if an entry of another kind is newer than all directories, no directory is
(`resolve_kind`). Nothing can stand below an entry of another kind.
-/

namespace Offscreen
set_option autoImplicit false

/-- Whether a path leads to a directory, with links followed. It leads somewhere, and it is not for the lack
of a directory that nothing could be listed there. -/
structure Files.IsDirectory (files : Files) (path : Bytes) : Prop where
  stands : ∃ time, files.modified path = .ok time
  listable : files.list path ≠ .error .notDirectory

/-! ## Directories of a tree -/

namespace Scratch.Tree

variable {tree : Tree} {path : Bytes} {location : Location} {node : Node}

theorem exists_resolve_of_modified {time : Instant} (modified : tree.files.modified path = .ok time) :
    ∃ location node, tree.resolve path = .ok (location, node) := by
  simp only [files] at modified
  cases arrived : tree.resolve path with
  | error cause =>
    rw [arrived] at modified
    cases modified
  | ok entry => exact ⟨entry.1, entry.2, rfl⟩

/-- In a tree the directories are the nodes of that kind. -/
theorem isDirectory_iff (found : tree.resolve path = .ok (location, node)) :
    tree.files.IsDirectory path ↔ node = .directory := by
  constructor
  · intro directory
    have listable := directory.listable
    cases node with
    | directory => rfl
    | file | program | link => exact absurd (by simp only [files, found]) listable
  · rintro rfl
    refine ⟨⟨((tree.entry? location).map (·.modified)).getD standardTime, ?_⟩, ?_⟩
    · simp only [files, found]
    · simp [files, found]

end Scratch.Tree

namespace Lookup

/-! ## The kind of the newest entry -/

/-- Some entry of a package is of a kind and newer than every entry that is not. -/
def Prevails (files : Files) (package dir : Bytes) (kind : Bytes → Prop) : Prop :=
  ∃ name time, Belongs files package dir name ∧ files.modified (dir ++ slash :: name.bytes) = .ok time ∧
    kind (dir ++ slash :: name.bytes) ∧
    ∀ other later, Belongs files package dir other → files.modified (dir ++ slash :: other.bytes) = .ok later →
      ¬kind (dir ++ slash :: other.bytes) → ¬time ≤ later

variable {files : Files} {package dir : Bytes} {kind : Bytes → Prop} {name : EntryName} {time : Instant}

theorem Newest.of_prevails (newest : Newest files package dir name time) (prevails : Prevails files package dir kind) :
    kind (dir ++ slash :: name.bytes) := by
  obtain ⟨one, since, belongs, modified, _, newer⟩ := prevails
  by_contra fails
  -- the newest entry would be older than one of the kind
  have older : ¬since ≤ time := newer name time newest.belongs newest.modified fails
  exact older (newest.latest one since belongs modified)

/-- Among entries with distinct times the newest one decides which kind prevails. -/
theorem Newest.kind_iff (newest : Newest files package dir name time) (distinct : Distinct files package dir) :
    kind (dir ++ slash :: name.bytes) ↔ Prevails files package dir kind := by
  constructor
  · intro holds
    refine ⟨name, time, newest.belongs, newest.modified, holds, ?_⟩
    intro other later belongs modified fails le
    have same : time = later := Std.le_antisymm le (newest.latest other later belongs modified)
    have one := distinct name other time newest.belongs belongs newest.modified (same ▸ modified)
    exact fails (one ▸ holds)
  · exact newest.of_prevails

/-- How the kinds of a package's entries determine the kind of the selected one. -/
structure KindSelected (files : Files) (package dir path : Bytes) : Prop where
  newest : ∃ name time, Newest files package dir name time ∧ path = dir ++ slash :: name.bytes
  directory : Prevails files package dir files.IsDirectory → files.IsDirectory path
  other : Prevails files package dir (fun path => ¬files.IsDirectory path) → ¬files.IsDirectory path
  /-- Only entries of the same instant leave the kind open. -/
  directory_iff : Distinct files package dir →
    (files.IsDirectory path ↔ Prevails files package dir files.IsDirectory)
  /-- In a tree the path leads to a node, and nothing stands below that unless it is a directory. -/
  node : ∀ tree : Scratch.Tree, tree.files = files → ∃ location node, tree.resolve path = .ok (location, node) ∧
    (files.IsDirectory path ↔ node = .directory) ∧
    (¬files.IsDirectory path → ∀ rest entry, tree.resolve (path ++ slash :: rest) ≠ .ok entry)

/-- **Kinds.** What a lookup selects is the newest entry of the package, of whatever kind. It is a directory if
one is newer than all entries of other kinds, and is none if an entry of another kind is newer than all
directories. -/
theorem resolve_kind (files : Files) (package binary path : Bytes)
    (resolved : resolve files package binary = .ok (some path)) :
    KindSelected files package (buildDir binary) path := by
  obtain ⟨name, time, newest, rfl⟩ := newest_of_resolve resolved
  refine ⟨⟨name, time, newest, rfl⟩, newest.of_prevails, newest.of_prevails, newest.kind_iff, ?_⟩
  rintro tree rfl
  obtain ⟨location, node, reached⟩ := Scratch.Tree.exists_resolve_of_modified newest.modified
  have directory := Scratch.Tree.isDirectory_iff reached
  refine ⟨location, node, reached, directory, ?_⟩
  intro other rest
  apply Scratch.Tree.resolve_below_ne_ok reached
  rwa [directory] at other

/-- The beginning of a second. -/
def atSecond (second : Int) : Instant := { Scratch.standardTime with seconds := second }

/-- A tree with a build directory in which some nodes stand, each with the second of its last change. -/
def buildTree (nodes : List (Bytes × Scratch.Node × Int)) : Scratch.Tree where
  entries := ⟨[Bytes.ascii "build"], .directory, atSecond 0⟩ ::
    nodes.map fun node => ⟨[Bytes.ascii "build", node.1], node.2.1, atSecond node.2.2⟩
  working := []
  clock := atSecond 0

/-- A file is older than the directory that a link leads to. -/
def linkedTree : Scratch.Tree :=
  buildTree [(Bytes.ascii "osmesa-src-1", .file [] false, 1), (Bytes.ascii "osmesa-sys-1", .directory, 2),
    (Bytes.ascii "osmesa-src-2", .link (Bytes.ascii "osmesa-sys-1"), 0)]

theorem prevails_linkedTree :
    Prevails linkedTree.files (Bytes.ascii "osmesa-src") (Bytes.ascii "./build") linkedTree.files.IsDirectory := by
  have listing : linkedTree.files.list (Bytes.ascii "./build") =
    .ok [.ok ⟨Bytes.ascii "osmesa-src-1", by decide⟩, .ok ⟨Bytes.ascii "osmesa-sys-1", by decide⟩,
      .ok ⟨Bytes.ascii "osmesa-src-2", by decide⟩] := rfl
  have linked : linkedTree.resolve (Bytes.ascii "./build" ++ slash :: Bytes.ascii "osmesa-src-2") =
    .ok ([Bytes.ascii "build", Bytes.ascii "osmesa-sys-1"], .directory) := by decide +kernel
  have directory := (Scratch.Tree.isDirectory_iff linked).2 rfl
  have younger : linkedTree.files.modified (Bytes.ascii "./build" ++ slash :: Bytes.ascii "osmesa-src-2") =
      .ok ⟨2, 0⟩ := by
    simp only [Scratch.Tree.files, linked]
    rfl
  have older : linkedTree.files.modified (Bytes.ascii "./build" ++ slash :: Bytes.ascii "osmesa-src-1") =
    .ok ⟨1, 0⟩ := rfl
  refine ⟨⟨Bytes.ascii "osmesa-src-2", by decide⟩, ⟨2, 0⟩, ⟨⟨_, listing, by simp⟩, by decide⟩, younger, directory, ?_⟩
  rintro other later ⟨⟨items, listed, mem⟩, starts⟩ modified fails
  obtain rfl := Except.ok.inj (listing.symm.trans listed)
  simp only [List.mem_cons, Except.ok.injEq, List.not_mem_nil, or_false] at mem
  rcases mem with rfl | rfl | rfl
  · obtain rfl := Except.ok.inj (older.symm.trans modified)
    decide
  · exact absurd starts (by decide)
  · exact absurd directory fails

theorem resolve_kind_of_link :
    resolve linkedTree.files (Bytes.ascii "osmesa-src") (Bytes.ascii "wrench") =
        .ok (some (Bytes.ascii "./build/osmesa-src-2")) ∧
      linkedTree.files.IsDirectory (Bytes.ascii "./build/osmesa-src-2") := by
  have resolved : resolve linkedTree.files (Bytes.ascii "osmesa-src") (Bytes.ascii "wrench") =
    .ok (some (Bytes.ascii "./build/osmesa-src-2")) := rfl
  have beside : buildDir (Bytes.ascii "wrench") = Bytes.ascii "./build" := by decide
  have kind := resolve_kind linkedTree.files (Bytes.ascii "osmesa-src") (Bytes.ascii "wrench") _ resolved
  rw [beside] at kind
  exact ⟨resolved, kind.directory prevails_linkedTree⟩

/-- A directory is older than a file. -/
def overtakenTree : Scratch.Tree :=
  buildTree [(Bytes.ascii "osmesa-src-1", .directory, 1), (Bytes.ascii "osmesa-src-2", .file [] false, 2)]

/-- A file that is newer than the only directory is selected. -/
theorem resolve_newer_file :
    resolve overtakenTree.files (Bytes.ascii "osmesa-src") (Bytes.ascii "wrench") =
        .ok (some (Bytes.ascii "./build/osmesa-src-2")) ∧
      overtakenTree.resolve (Bytes.ascii "./build/osmesa-src-2") =
        .ok ([Bytes.ascii "build", Bytes.ascii "osmesa-src-2"], .file [] false) ∧
      ¬overtakenTree.files.IsDirectory (Bytes.ascii "./build/osmesa-src-2") ∧
      overtakenTree.files.IsDirectory (Bytes.ascii "./build/osmesa-src-1") := by
  have file : overtakenTree.resolve (Bytes.ascii "./build/osmesa-src-2") =
    .ok ([Bytes.ascii "build", Bytes.ascii "osmesa-src-2"], .file [] false) := rfl
  have directory : overtakenTree.resolve (Bytes.ascii "./build/osmesa-src-1") =
    .ok ([Bytes.ascii "build", Bytes.ascii "osmesa-src-1"], .directory) := rfl
  refine ⟨rfl, file, ?_, (Scratch.Tree.isDirectory_iff directory).2 rfl⟩
  rw [Scratch.Tree.isDirectory_iff file]
  decide

end Lookup
end Offscreen
