import Offscreen.Lookup
import Offscreen.Proofs.Path
import Mathlib.Data.List.Induction

/-!
# What a lookup finds

`newest` keeps a candidate that none is later than (`newest_isNewest`), a scan collects one
candidate for each entry of the package (`mem_scan_iff`), and the only faults of a scan are faults of
reading (`scan_error`).
-/

namespace Offscreen.Lookup
set_option autoImplicit false

/-! ## The latest of some candidates -/

/-- A candidate that no candidate of a list is later than. -/
structure IsNewest (best : Candidate) (candidates : List Candidate) : Prop where
  mem : best ∈ candidates
  le : ∀ c ∈ candidates, c.modified ≤ best.modified

theorem newest_append_singleton (candidates : List Candidate) (next : Candidate) :
    newest (candidates ++ [next]) = later (newest candidates) next := by
  simp [newest, List.foldl_append]

theorem later_ne_none (best : Option Candidate) (next : Candidate) : later best next ≠ none := by
  cases best with
  | none => simp [later]
  | some best => simp only [later]; split <;> simp

theorem newest_eq_none_iff {candidates : List Candidate} : newest candidates = none ↔ candidates = [] := by
  induction candidates using List.reverseRecOn with
  | nil => simp [newest]
  | append_singleton front next _ =>
    rw [newest_append_singleton]
    simp [later_ne_none]

/-- The next candidate is compared with the best of all before it. -/
theorem IsNewest.later {best next kept : Candidate} {front : List Candidate} (h : IsNewest best front)
    (e : later (some best) next = some kept) : IsNewest kept (front ++ [next]) := by
  simp only [Lookup.later] at e
  split at e
  · rename_i le
    cases e
    refine ⟨by simp, fun c mem => ?_⟩
    rcases List.mem_append.1 mem with old | new
    · exact Std.le_trans (h.le c old) le
    · exact List.mem_singleton.1 new ▸ Std.le_refl _
  · rename_i nle
    cases e
    refine ⟨List.mem_append_left _ h.mem, fun c mem => ?_⟩
    rcases List.mem_append.1 mem with old | new
    · exact h.le c old
    · exact List.mem_singleton.1 new ▸ Std.le_total.resolve_left nle

theorem newest_isNewest {candidates : List Candidate} {best : Candidate}
    (h : newest candidates = some best) : IsNewest best candidates := by
  -- from the last candidate on, since the fold meets it last
  induction candidates using List.reverseRecOn generalizing best with
  | nil => cases h
  | append_singleton front next ih =>
    rw [newest_append_singleton] at h
    cases e : newest front with
    | none =>
      rw [e] at h
      cases h
      rw [newest_eq_none_iff.1 e]
      exact ⟨List.mem_singleton_self _, fun c mem => List.mem_singleton.1 mem ▸ Std.le_refl _⟩
    | some first => exact (ih e).later (e ▸ h)

/-! ## Scanning a directory -/

section Scan

variable {files : Files} {package dir : Bytes}

/-- An entry of a directory whose name begins with the stem of a package. -/
structure Belongs (files : Files) (package dir : Bytes) (name : EntryName) : Prop where
  listed : ∃ items, files.list dir = .ok items ∧ .ok name ∈ items
  starts : stem package <+: name.bytes

/-- Only a name that begins with the stem becomes a candidate, under the path that leads to it. -/
theorem candidate_eq_some_iff {item : Except IoFault EntryName} {c : Candidate} :
    candidate files package dir item = .ok (some c) ↔
      ∃ name, item = .ok name ∧ stem package <+: name.bytes ∧ c.name = name.bytes ∧
        c.path = Path.join dir name.bytes ∧ files.modified c.path = .ok c.modified := by
  obtain ⟨bytes, modified, path⟩ := c
  cases item with
  | error cause => simp [candidate]
  | ok name =>
    simp only [candidate, List.isPrefixOf_iff_prefix, Except.ok.injEq, exists_eq_left']
    by_cases h : stem package <+: name.bytes
    · cases e : files.modified (Path.join dir name.bytes) with
      | error cause =>
        simp only [h, if_true, true_and, reduceCtorEq, false_iff]
        rintro ⟨-, rfl, m⟩
        exact nomatch e.symm.trans m
      | ok time =>
        simp only [h, if_true, true_and, Except.ok.injEq, Option.some.injEq, Candidate.mk.injEq]
        constructor
        · rintro ⟨rfl, rfl, rfl⟩
          exact ⟨rfl, rfl, e⟩
        · rintro ⟨rfl, rfl, m⟩
          exact ⟨rfl, Except.ok.inj (e.symm.trans m), rfl⟩
    · simp [h]

theorem candidate_error {item : Except IoFault EntryName} {fault : Fault}
    (h : candidate files package dir item = .error fault) :
    ∃ path cause, fault = .filesystemAccess path cause := by
  cases item with
  | error cause => exact ⟨dir, cause, (Except.error.inj h).symm⟩
  | ok name =>
    simp only [candidate] at h
    split at h
    · split at h
      · exact ⟨_, _, (Except.error.inj h).symm⟩
      · cases h
    · cases h

/-- The first item is taken in before the rest is. -/
theorem candidates_cons (item : Except IoFault EntryName) (rest : List (Except IoFault EntryName)) :
    candidates files package dir (item :: rest) =
      match candidate files package dir item, candidates files package dir rest with
      | .error fault, _ => .error fault
      | .ok _, .error fault => .error fault
      | .ok found, .ok later => .ok (found.toList ++ later) := by
  simp only [candidates, List.mapM_cons, bind, Except.bind]
  cases candidate files package dir item with
  | error fault => rfl
  | ok found =>
    cases rest.mapM (candidate files package dir) with
    | error fault => rfl
    | ok later => cases found <;> rfl

theorem mem_candidates_iff {items : List (Except IoFault EntryName)} {found : List Candidate}
    (h : candidates files package dir items = .ok found) {c : Candidate} :
    c ∈ found ↔ ∃ item ∈ items, candidate files package dir item = .ok (some c) := by
  induction items generalizing found with
  | nil => cases h; simp
  | cons item rest ih =>
    rw [candidates_cons] at h
    cases e : candidate files package dir item with
    | error fault => simp [e] at h
    | ok first =>
      cases e' : candidates files package dir rest with
      | error fault => simp [e, e'] at h
      | ok later =>
        simp only [e, e', Except.ok.injEq] at h
        simp [← h, ih e', e]

/-- Items that are taken in one by one are taken in together. -/
theorem candidates_isOk {items : List (Except IoFault EntryName)}
    (h : ∀ item ∈ items, ∃ found, candidate files package dir item = .ok found) :
    ∃ found, candidates files package dir items = .ok found := by
  induction items with
  | nil => exact ⟨[], rfl⟩
  | cons item rest ih =>
    obtain ⟨first, e⟩ := h item List.mem_cons_self
    obtain ⟨later, e'⟩ := ih fun i mem => h i (List.mem_cons_of_mem _ mem)
    exact ⟨first.toList ++ later, by rw [candidates_cons, e, e']⟩

theorem candidates_error {items : List (Except IoFault EntryName)} {fault : Fault}
    (h : candidates files package dir items = .error fault) :
    ∃ path cause, fault = .filesystemAccess path cause := by
  induction items with
  | nil => cases h
  | cons item rest ih =>
    rw [candidates_cons] at h
    cases e : candidate files package dir item with
    | error fault' =>
      simp only [e, Except.error.injEq] at h
      exact candidate_error (h ▸ e)
    | ok first =>
      cases e' : candidates files package dir rest with
      | error fault' =>
        simp only [e, e', Except.error.injEq] at h
        exact ih (h ▸ e')
      | ok later => simp [e, e'] at h

/-- A scan fails only where something cannot be read. -/
theorem scan_error {fault : Fault} (h : scan files package dir = .error fault) :
    ∃ path cause, fault = .filesystemAccess path cause := by
  simp only [scan] at h
  split at h
  · exact candidates_error h
  · split at h
    · cases h
    · exact ⟨_, _, (Except.error.inj h).symm⟩

/-- A scan finds one candidate for each entry of the package and none else. -/
theorem mem_scan_iff {found : List Candidate} (h : scan files package dir = .ok found) {c : Candidate} :
    c ∈ found ↔ ∃ name, Belongs files package dir name ∧ c.name = name.bytes ∧
      c.path = Path.join dir name.bytes ∧ files.modified c.path = .ok c.modified := by
  cases e : files.list dir with
  | error cause =>
    have empty : found = [] := by
      simp only [scan, e] at h
      split at h <;> cases h
      rfl
    simp only [empty, List.not_mem_nil, false_iff]
    rintro ⟨name, ⟨⟨items, listed, -⟩, -⟩, -⟩
    exact nomatch e.symm.trans listed
  | ok items =>
    simp only [scan, e] at h
    simp only [mem_candidates_iff h, candidate_eq_some_iff]
    constructor
    · rintro ⟨_, mem, name, rfl, starts, rest⟩
      exact ⟨name, ⟨⟨items, e, mem⟩, starts⟩, rest⟩
    · rintro ⟨name, ⟨⟨items', e', mem⟩, starts⟩, rest⟩
      obtain rfl := Except.ok.inj (e.symm.trans e')
      exact ⟨_, mem, name, rfl, starts, rest⟩

end Scan

/-! ## The build directory -/

theorem buildDir_open (binary : Bytes) : Path.Open (buildDir binary) :=
  Path.open_join ⟨by decide, by decide⟩ (binaryDir binary)

/-- A byte of the build directory's path that is neither a slash nor of its last name comes from the
directory of the binary. -/
theorem mem_buildDir {b : UInt8} (ne : b ≠ slash) (other : b ∉ Bytes.ascii "build") {binary : Bytes} :
    b ∈ buildDir binary ↔ b ∈ binaryDir binary := by
  rw [buildDir, Path.mem_join ne _ rfl]
  simp [other]

section Answer

variable {files : Files} {package binary : Bytes}

/-- An entry of a package has a name that a path can go on with, since the stem is not empty. -/
theorem Belongs.segment {dir : Bytes} {name : EntryName} (h : Belongs files package dir name) :
    Path.Segment name.bytes where
  nonempty := by
    obtain ⟨rest, e⟩ := h.starts
    simp [← e, stem]
  slash_not_mem := name.slash_not_mem

theorem join_buildDir (binary : Bytes) (name : EntryName) :
    Path.join (buildDir binary) name.bytes = buildDir binary ++ slash :: name.bytes :=
  Path.join_open (buildDir_open binary) (Path.isAbsolute_of_slash_not_mem name.slash_not_mem)

/-- The candidates of a scan are the entries of the package with their times. -/
theorem mem_scan_buildDir_iff {found : List Candidate}
    (h : scan files package (buildDir binary) = .ok found) {c : Candidate} :
    c ∈ found ↔ ∃ name, Belongs files package (buildDir binary) name ∧ c.name = name.bytes ∧
      c.path = buildDir binary ++ slash :: name.bytes ∧ files.modified c.path = .ok c.modified := by
  simp only [mem_scan_iff h, join_buildDir]

theorem resolve_eq_ok_iff {answer : Option Bytes} :
    resolve files package binary = .ok answer ↔
      ∃ found, scan files package (buildDir binary) = .ok found ∧ answer = (newest found).map (·.path) := by
  unfold resolve
  cases scan files package (buildDir binary) with
  | error fault => simp [Except.map]
  | ok found => simp [Except.map, eq_comm]

theorem resolve_error {fault : Fault} (h : resolve files package binary = .error fault) :
    ∃ path cause, fault = .filesystemAccess path cause := by
  unfold resolve at h
  cases e : scan files package (buildDir binary) with
  | error fault' =>
    rw [e] at h
    cases h
    exact scan_error e
  | ok found => simp [e, Except.map] at h

theorem require_eq_ok_iff {path : Bytes} :
    require files package binary = .ok path ↔ resolve files package binary = .ok (some path) := by
  unfold require
  split <;> simp [*]

/-- Only an answer of none is reported as a missing dependency, since reading faults are told apart
from it. -/
theorem require_eq_missing_iff :
    require files package binary = .error (.dependencyNotFound package (buildDir binary)) ↔
      resolve files package binary = .ok none := by
  unfold require
  split
  · rename_i fault e
    obtain ⟨path, cause, rfl⟩ := resolve_error e
    simp [e]
  · simp [*]
  · simp [*]

/-- The path that is required leads to the newest candidate, a name below the build directory. -/
theorem require_eq_ok {path : Bytes} (h : require files package binary = .ok path) :
    ∃ found best, scan files package (buildDir binary) = .ok found ∧ newest found = some best ∧
      path = buildDir binary ++ slash :: best.name ∧ Path.Segment best.name := by
  obtain ⟨found, scanned, answer⟩ := resolve_eq_ok_iff.1 (require_eq_ok_iff.1 h)
  obtain ⟨best, selected, rfl⟩ := Option.map_eq_some_iff.1 answer.symm
  obtain ⟨name, belongs, named, its, -⟩ :=
    (mem_scan_buildDir_iff scanned).1 (newest_isNewest selected).mem
  exact ⟨found, best, scanned, selected, named ▸ its, named ▸ belongs.segment⟩

/-- The path that a lookup answers with leads to an entry of the package. -/
theorem belongs_of_resolve {path : Bytes} (h : resolve files package binary = .ok (some path)) :
    ∃ name, Belongs files package (buildDir binary) name ∧ path = buildDir binary ++ slash :: name.bytes := by
  obtain ⟨found, scanned, answer⟩ := resolve_eq_ok_iff.1 h
  obtain ⟨best, selected, rfl⟩ := Option.map_eq_some_iff.1 answer.symm
  obtain ⟨name, belongs, -, path, -⟩ := (mem_scan_buildDir_iff scanned).1 (newest_isNewest selected).mem
  exact ⟨name, belongs, path⟩

theorem belongs_of_require {path : Bytes} (h : require files package binary = .ok path) :
    ∃ name, Belongs files package (buildDir binary) name ∧ path = buildDir binary ++ slash :: name.bytes :=
  belongs_of_resolve (require_eq_ok_iff.1 h)

/-- Names can go on behind a path that was required. -/
theorem open_of_require {path : Bytes} (h : require files package binary = .ok path) : Path.Open path := by
  obtain ⟨name, belongs, rfl⟩ := belongs_of_require h
  have isOpen := belongs.segment.open_append (buildDir binary ++ [slash])
  rwa [List.append_assoc] at isOpen

end Answer

end Offscreen.Lookup
