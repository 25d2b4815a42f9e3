import Offscreen.Proofs.Rendering

/-!
# What stops a lookup

A lookup reads the build directory, then the items of its listing one after the other, and asks only
the entries of the package for their times. The first of these readings that fails stops it
(`Obstacle`), unless the directory is merely missing, and the fault blames what could not be read
(`resolve_fails_at_obstacle`).
-/

namespace Offscreen.Lookup
set_option autoImplicit false

/-- How an item of a listing stops a scan: the path that is blamed, and the cause. -/
inductive Stops (files : Files) (package dir : Bytes) :
    Except IoFault EntryName → Bytes → IoFault → Prop where
  /-- The item itself cannot be read. -/
  | unread (cause : IoFault) : Stops files package dir (.error cause) dir cause
  /-- It is an entry of the package that does not tell its time. -/
  | untimed (name : EntryName) (cause : IoFault) (starts : stem package <+: name.bytes)
      (failed : files.modified (dir ++ slash :: name.bytes) = .error cause) :
      Stops files package dir (.ok name) (dir ++ slash :: name.bytes) cause

/-- What stops a lookup in a directory: the path that is blamed, and the cause. -/
inductive Obstacle (files : Files) (package dir : Bytes) : Bytes → IoFault → Prop where
  /-- The directory cannot be opened, for another cause than that there is none. -/
  | unopened (cause : IoFault) (failed : files.list dir = .error cause) (present : cause ≠ .notFound) :
      Obstacle files package dir dir cause
  /-- An item stops the scan that none before it stopped. -/
  | item (before later : List (Except IoFault EntryName)) (item : Except IoFault EntryName)
      (path : Bytes) (cause : IoFault) (listed : files.list dir = .ok (before ++ item :: later))
      (passed : ∀ earlier ∈ before, ∀ p c, ¬Stops files package dir earlier p c)
      (stops : Stops files package dir item path cause) : Obstacle files package dir path cause

section

variable {files : Files} {package dir path : Bytes} {cause : IoFault}
  {item : Except IoFault EntryName} {items : List (Except IoFault EntryName)}

theorem candidate_eq_error_iff (isOpen : Path.Open dir) :
    candidate files package dir item = .error (.filesystemAccess path cause) ↔
      Stops files package dir item path cause := by
  constructor
  · intro h
    cases item with
    | error cause' =>
      cases h
      exact .unread cause
    | ok name =>
      have below := Path.join_open isOpen (Path.isAbsolute_of_slash_not_mem name.slash_not_mem)
      simp only [candidate, List.isPrefixOf_iff_prefix, below] at h
      split at h
      · rename_i starts
        split at h
        · rename_i cause' failed
          cases h
          exact .untimed name cause starts failed
        · cases h
      · cases h
  · intro h
    cases h with
    | unread => rfl
    | untimed name _ starts failed =>
      have below := Path.join_open isOpen (Path.isAbsolute_of_slash_not_mem name.slash_not_mem)
      simp only [candidate, List.isPrefixOf_iff_prefix, below, starts, if_true, failed]

/-- An item that does not stop the scan is taken in. -/
theorem candidate_isOk (isOpen : Path.Open dir) (passed : ∀ p c, ¬Stops files package dir item p c) :
    ∃ found, candidate files package dir item = .ok found := by
  cases taken : candidate files package dir item with
  | error fault =>
    obtain ⟨p, c, rfl⟩ := candidate_error taken
    exact absurd ((candidate_eq_error_iff isOpen).1 taken) (passed p c)
  | ok found => exact ⟨found, rfl⟩

/-- The first item that stops the scan decides its fault, whatever comes after it. -/
theorem candidates_eq_error_iff (isOpen : Path.Open dir) :
    candidates files package dir items = .error (.filesystemAccess path cause) ↔
      ∃ before item later, items = before ++ item :: later ∧
        (∀ earlier ∈ before, ∀ p c, ¬Stops files package dir earlier p c) ∧
        Stops files package dir item path cause := by
  constructor
  · intro h
    induction items with
    | nil => cases h
    | cons first rest ih =>
      rw [candidates_cons] at h
      cases taken : candidate files package dir first with
      | error fault =>
        rw [taken] at h
        cases h
        exact ⟨[], first, rest, rfl, nofun, (candidate_eq_error_iff isOpen).1 taken⟩
      | ok found =>
        cases scanned : candidates files package dir rest with
        | error fault =>
          rw [taken, scanned] at h
          cases h
          obtain ⟨before, item, later, rfl, passed, stops⟩ := ih scanned
          refine ⟨first :: before, item, later, rfl, List.forall_mem_cons.2 ⟨fun p c stopped => ?_, passed⟩, stops⟩
          cases taken.symm.trans ((candidate_eq_error_iff isOpen).2 stopped)
        | ok others =>
          rw [taken, scanned] at h
          cases h
  · rintro ⟨before, item, later, rfl, passed, stops⟩
    induction before with
    | nil => rw [List.nil_append, candidates_cons, (candidate_eq_error_iff isOpen).2 stops]
    | cons first before ih =>
      obtain ⟨sound, others⟩ := List.forall_mem_cons.1 passed
      obtain ⟨found, taken⟩ := candidate_isOk isOpen sound
      rw [List.cons_append, candidates_cons, taken, ih others]

/-- A scan stops at its obstacle. -/
theorem scan_eq_error_iff (isOpen : Path.Open dir) :
    scan files package dir = .error (.filesystemAccess path cause) ↔
      Obstacle files package dir path cause := by
  unfold scan
  cases listed : files.list dir with
  | error cause' =>
    constructor
    · intro h
      dsimp only at h
      split at h
      · cases h
      · rename_i present
        cases h
        exact .unopened cause listed present
    · intro h
      cases h with
      | unopened _ failed present =>
        cases listed.symm.trans failed
        exact if_neg present
      | item _ _ _ _ _ listed' => cases listed.symm.trans listed'
  | ok items =>
    dsimp only
    rw [candidates_eq_error_iff isOpen]
    constructor
    · rintro ⟨before, item, later, rfl, passed, stops⟩
      exact .item before later item path cause listed passed stops
    · intro h
      cases h with
      | unopened _ failed => cases listed.symm.trans failed
      | item before later item _ _ listed' passed stops =>
        cases listed.symm.trans listed'
        exact ⟨before, item, later, rfl, passed, stops⟩

/-- Where some item stops a scan, a first one does. -/
theorem exists_first_stop (some : ∃ item ∈ items, ∃ p c, Stops files package dir item p c) :
    ∃ before item later, items = before ++ item :: later ∧
      (∀ earlier ∈ before, ∀ p c, ¬Stops files package dir earlier p c) ∧
      ∃ p c, Stops files package dir item p c := by
  induction items with
  | nil =>
    obtain ⟨item, mem, -⟩ := some
    cases mem
  | cons first rest ih =>
    by_cases stops : ∃ p c, Stops files package dir first p c
    · exact ⟨[], first, rest, rfl, nofun, stops⟩
    · obtain ⟨item, mem, stopped⟩ := some
      rcases List.mem_cons.1 mem with rfl | mem
      · exact absurd stopped stops
      · obtain ⟨before, item, later, rfl, passed, stopped⟩ := ih ⟨item, mem, stopped⟩
        refine ⟨first :: before, item, later, rfl, List.forall_mem_cons.2 ⟨fun p c h => ?_, passed⟩, stopped⟩
        exact stops ⟨p, c, h⟩

theorem stops_iff : (∃ p c, Stops files package dir item p c) ↔
    (∃ cause, item = .error cause) ∨ ∃ name cause, item = .ok name ∧ stem package <+: name.bytes ∧
      files.modified (dir ++ slash :: name.bytes) = .error cause := by
  constructor
  · rintro ⟨p, c, stops⟩
    cases stops with
    | unread => exact .inl ⟨c, rfl⟩
    | untimed name _ starts failed => exact .inr ⟨name, c, rfl, starts, failed⟩
  · rintro (⟨c, rfl⟩ | ⟨name, c, rfl, starts, failed⟩)
    · exact ⟨_, _, .unread c⟩
    · exact ⟨_, _, .untimed name c starts failed⟩

end

/-- Something that a lookup in a directory has to read cannot be read. -/
inductive Unreadable (files : Files) (package dir : Bytes) : Prop where
  | directory (cause : IoFault) (failed : files.list dir = .error cause) (present : cause ≠ .notFound)
  | entry (items : List (Except IoFault EntryName)) (cause : IoFault) (listed : files.list dir = .ok items)
      (mem : .error cause ∈ items)
  | time (items : List (Except IoFault EntryName)) (name : EntryName) (cause : IoFault)
      (listed : files.list dir = .ok items) (mem : .ok name ∈ items) (starts : stem package <+: name.bytes)
      (failed : files.modified (dir ++ slash :: name.bytes) = .error cause)

theorem exists_obstacle_iff {files : Files} {package dir : Bytes} :
    (∃ path cause, Obstacle files package dir path cause) ↔ Unreadable files package dir := by
  constructor
  · rintro ⟨path, cause, obstacle⟩
    cases obstacle with
    | unopened _ failed present => exact .directory cause failed present
    | item before later item _ _ listed _ stops =>
      have mem : item ∈ before ++ item :: later := List.mem_append_right _ List.mem_cons_self
      rcases stops_iff.1 ⟨_, _, stops⟩ with ⟨c, rfl⟩ | ⟨name, c, rfl, starts, failed⟩
      · exact .entry _ c listed mem
      · exact .time _ name c listed mem starts failed
  · intro unreadable
    have first {items} (listed : files.list dir = .ok items)
        (some : ∃ item ∈ items, ∃ p c, Stops files package dir item p c) :
        ∃ path cause, Obstacle files package dir path cause := by
      obtain ⟨before, item, later, rfl, passed, p, c, stops⟩ := exists_first_stop some
      exact ⟨p, c, .item before later item p c listed passed stops⟩
    cases unreadable with
    | directory cause failed present => exact ⟨dir, cause, .unopened cause failed present⟩
    | entry items cause listed mem => exact first listed ⟨_, mem, stops_iff.2 (.inl ⟨cause, rfl⟩)⟩
    | time items name cause listed mem starts failed =>
      exact first listed ⟨_, mem, stops_iff.2 (.inr ⟨name, cause, rfl, starts, failed⟩)⟩

section

variable {files : Files} {package binary : Bytes}

theorem resolve_eq_error_iff {fault : Fault} :
    resolve files package binary = .error fault ↔
      ∃ path cause, Obstacle files package (buildDir binary) path cause ∧ fault = .filesystemAccess path cause := by
  have same : resolve files package binary = .error fault ↔
      scan files package (buildDir binary) = .error fault := by
    unfold resolve
    cases scan files package (buildDir binary) <;> simp [Except.map]
  rw [same]
  constructor
  · intro failed
    obtain ⟨path, cause, rfl⟩ := scan_error failed
    exact ⟨path, cause, (scan_eq_error_iff (buildDir_open binary)).1 failed, rfl⟩
  · rintro ⟨path, cause, obstacle, rfl⟩
    exact (scan_eq_error_iff (buildDir_open binary)).2 obstacle

theorem resolve_fails_iff : (∃ fault, resolve files package binary = .error fault) ↔
    Unreadable files package (buildDir binary) := by
  rw [← exists_obstacle_iff]
  constructor
  · rintro ⟨fault, failed⟩
    obtain ⟨path, cause, obstacle, -⟩ := resolve_eq_error_iff.1 failed
    exact ⟨path, cause, obstacle⟩
  · rintro ⟨path, cause, obstacle⟩
    exact ⟨_, resolve_eq_error_iff.2 ⟨path, cause, obstacle, rfl⟩⟩

theorem scan_of_readable (readable : ¬Unreadable files package (buildDir binary)) :
    ∃ found, scan files package (buildDir binary) = .ok found := by
  cases answered : resolve files package binary with
  | error fault => exact absurd (resolve_fails_iff.1 ⟨fault, answered⟩) readable
  | ok answer =>
    obtain ⟨found, scanned, -⟩ := resolve_eq_ok_iff.1 answered
    exact ⟨found, scanned⟩

theorem resolve_of_missing (missing : files.list (buildDir binary) = .error .notFound) :
    resolve files package binary = .ok none := by
  simp [resolve, scan, missing, Except.map, newest]

theorem require_eq_unreadable_iff {path : Bytes} {cause : IoFault} :
    require files package binary = .error (.filesystemAccess path cause) ↔
      resolve files package binary = .error (.filesystemAccess path cause) := by
  unfold require
  split <;> simp [*]

/-- What is set up for a package that is found can be rejected, but it reads nothing more. -/
theorem configure_eq_unreadable_iff {platform : Platform} {path : Bytes} {cause : IoFault}
    (supported : platform.supported = true) :
    Rendering.configure files platform binary = .error (.filesystemAccess path cause) ↔
      resolve files Rendering.package binary = .error (.filesystemAccess path cause) := by
  rw [← require_eq_unreadable_iff]
  cases required : require files Rendering.package binary with
  | error fault => simp [Rendering.configure_of_require_error supported required]
  | ok output =>
    have other {name : Bytes} {dirs : List Bytes} :
        Rendering.overrides name dirs ≠ .error (.filesystemAccess path cause) := by
      rw [Ne, Rendering.overrides_eq_error_iff, SearchPath.ofDirectories_eq_error_iff]
      exact fun ⟨_, same⟩ => nomatch same
    cases platform with
    | linux | macos =>
      simpa only [Rendering.configure, required, bind, Except.bind, reduceCtorEq, iff_false] using other
    | windows | other => cases supported

end

variable (files : Files) (package binary : Bytes) in
/-- When a lookup beside a binary fails, and with which fault. -/
structure Failing : Prop where
  /-- The fault blames the obstacle that the lookup comes to. -/
  fault_iff : ∀ fault, resolve files package binary = .error fault ↔
    ∃ path cause, Obstacle files package (buildDir binary) path cause ∧ fault = .filesystemAccess path cause
  /-- Nothing is found where anything that has to be read cannot be. -/
  fails_iff : (∃ fault, resolve files package binary = .error fault) ↔
    Unreadable files package (buildDir binary)
  /-- Only a directory that is missing is passed over. -/
  missing : files.list (buildDir binary) = .error .notFound → resolve files package binary = .ok none
  require_iff : ∀ path cause, require files package binary = .error (.filesystemAccess path cause) ↔
    resolve files package binary = .error (.filesystemAccess path cause)

/-- **Failure of a lookup.** A lookup fails exactly where something that it has to read cannot be read, at
the first such thing, and requiring the package or setting rendering up fails with the same fault. -/
theorem resolve_fails_at_obstacle (files : Files) (package binary : Bytes) :
    Failing files package binary ∧
      ∀ platform : Platform, platform.supported = true → ∀ path cause,
        Rendering.configure files platform binary = .error (.filesystemAccess path cause) ↔
          resolve files Rendering.package binary = .error (.filesystemAccess path cause) :=
  ⟨⟨fun _ => resolve_eq_error_iff, resolve_fails_iff, resolve_of_missing, fun _ _ => require_eq_unreadable_iff⟩,
    fun _ supported _ _ => configure_eq_unreadable_iff supported⟩

end Offscreen.Lookup
