import Offscreen.Proofs.Lookup

/-!
# Which entry is selected

A lookup of a package reads the directory beside a binary. Where that directory is missing, or lists
without a fault and tells the modification time of every entry of the package, the lookup answers
(`resolve_selects`): with none if no entry belongs to the package, else with an entry that none was
modified after. If no two entries were modified at the same instant, that entry is the only one.
-/

namespace Offscreen.Lookup
set_option autoImplicit false

/-- What can be read of a package in a directory: nothing, if the directory is missing, else all
names and the modification times of the entries of the package. -/
inductive Readable (files : Files) (package dir : Bytes) : Prop where
  | missing (absent : files.list dir = .error .notFound)
  | listed (names : List EntryName) (listing : files.list dir = .ok (names.map .ok))
      (times : ∀ name ∈ names, stem package <+: name.bytes →
        ∃ time, files.modified (dir ++ slash :: name.bytes) = .ok time)

/-- An entry of a package, with its modification time, that no other entry was modified after. -/
structure Newest (files : Files) (package dir : Bytes) (name : EntryName) (time : Instant) : Prop where
  belongs : Belongs files package dir name
  modified : files.modified (dir ++ slash :: name.bytes) = .ok time
  latest : ∀ other later, Belongs files package dir other →
    files.modified (dir ++ slash :: other.bytes) = .ok later → later ≤ time

/-- No two entries of a package were modified at the same instant. -/
def Distinct (files : Files) (package dir : Bytes) : Prop :=
  ∀ a b time, Belongs files package dir a → Belongs files package dir b →
    files.modified (dir ++ slash :: a.bytes) = .ok time →
    files.modified (dir ++ slash :: b.bytes) = .ok time → a = b

/-- How the entries of a package in a directory determine the answer of a lookup. -/
structure Selection (files : Files) (package dir : Bytes) (answer : Option Bytes) : Prop where
  none_iff : answer = none ↔
    files.list dir = .error .notFound ∨ ∀ name, ¬Belongs files package dir name
  newest : answer ≠ none →
    ∃ name time, Newest files package dir name time ∧ answer = some (dir ++ slash :: name.bytes)
  determined : Distinct files package dir → ∀ name,
    (∃ time, Newest files package dir name time) ↔ answer = some (dir ++ slash :: name.bytes)

section

variable {files : Files} {package dir : Bytes}

theorem path_inj {a b : EntryName} (h : dir ++ slash :: a.bytes = dir ++ slash :: b.bytes) : a = b :=
  EntryName.ext (List.cons.inj (List.append_cancel_left h)).2

/-- Where all times can be told, no entry of the package stops the scan. -/
theorem Readable.scan_isOk {binary : Bytes} (h : Readable files package (buildDir binary)) :
    ∃ found, scan files package (buildDir binary) = .ok found := by
  cases h with
  | missing absent => exact ⟨[], by simp [scan, absent]⟩
  | listed names listing times =>
    simp only [scan, listing]
    apply candidates_isOk
    intro item mem
    obtain ⟨name, named, rfl⟩ := List.mem_map.1 mem
    by_cases starts : stem package <+: name.bytes
    · obtain ⟨time, modified⟩ := times name named starts
      rw [← join_buildDir] at modified
      have taken : candidate files package (buildDir binary) (.ok name) = .ok (some ⟨name.bytes, time, _⟩) :=
        candidate_eq_some_iff.2 ⟨name, rfl, starts, rfl, rfl, modified⟩
      exact ⟨_, taken⟩
    · exact ⟨none, by simp [candidate, starts]⟩

/-- The time of an entry of the package can be told, since the entry is among the listed names. -/
theorem Readable.modified {name : EntryName} (h : Readable files package dir)
    (belongs : Belongs files package dir name) :
    ∃ time, files.modified (dir ++ slash :: name.bytes) = .ok time := by
  obtain ⟨⟨items, e, mem⟩, starts⟩ := belongs
  cases h with
  | missing absent => exact nomatch absent.symm.trans e
  | listed names listing times =>
    obtain rfl := Except.ok.inj (listing.symm.trans e)
    obtain ⟨_, named, same⟩ := List.mem_map.1 mem
    cases same
    exact times name named starts

/-- A candidate that none is later than stands for an entry that none was modified after. -/
theorem IsNewest.newest {binary : Bytes} {found : List Candidate} {best : Candidate}
    (scanned : scan files package (buildDir binary) = .ok found) (h : IsNewest best found) :
    ∃ name, Newest files package (buildDir binary) name best.modified ∧
      best.path = buildDir binary ++ slash :: name.bytes := by
  obtain ⟨name, belongs, -, path, modified⟩ := (mem_scan_buildDir_iff scanned).1 h.mem
  refine ⟨name, ⟨belongs, path ▸ modified, ?_⟩, path⟩
  intro other later its time
  have mem : (⟨other.bytes, later, buildDir binary ++ slash :: other.bytes⟩ : Candidate) ∈ found :=
    (mem_scan_buildDir_iff scanned).2 ⟨other, its, rfl, rfl, time⟩
  exact h.le _ mem

/-- A lookup selects an entry that none was modified after. -/
theorem newest_of_resolve {binary path : Bytes} (resolved : resolve files package binary = .ok (some path)) :
    ∃ name time, Newest files package (buildDir binary) name time ∧ path = buildDir binary ++ slash :: name.bytes := by
  obtain ⟨found, scanned, answer⟩ := resolve_eq_ok_iff.1 resolved
  obtain ⟨best, selected, rfl⟩ := Option.map_eq_some_iff.1 answer.symm
  obtain ⟨name, newest, below⟩ := (newest_isNewest selected).newest scanned
  exact ⟨name, best.modified, newest, below⟩

/-- Of entries with distinct times one alone is the newest. -/
theorem Newest.eq {a b : EntryName} {s t : Instant} (distinct : Distinct files package dir)
    (h : Newest files package dir a s) (k : Newest files package dir b t) : a = b := by
  have same : s = t := Std.le_antisymm (k.latest a s h.belongs h.modified) (h.latest b t k.belongs k.modified)
  exact distinct a b t h.belongs k.belongs (same ▸ h.modified) k.modified

/-- The answer that the candidates of a scan lead to is the selection. -/
theorem selection_of_scan {binary : Bytes} {found : List Candidate}
    (readable : Readable files package (buildDir binary))
    (scanned : scan files package (buildDir binary) = .ok found) :
    Selection files package (buildDir binary) ((Lookup.newest found).map (·.path)) := by
  cases e : Lookup.newest found with
  | none =>
    have empty : ∀ name, ¬Belongs files package (buildDir binary) name := by
      intro name belongs
      obtain ⟨time, modified⟩ := readable.modified belongs
      have mem := (mem_scan_buildDir_iff scanned (c := ⟨name.bytes, time, _⟩)).2
        ⟨name, belongs, rfl, rfl, modified⟩
      simp [newest_eq_none_iff.1 e] at mem
    refine ⟨by simpa using .inr empty, by simp, fun _ name => ?_⟩
    simpa using fun time (h : Newest _ _ _ name time) => empty name h.belongs
  | some best =>
    obtain ⟨name, isNewest, path⟩ := (newest_isNewest e).newest scanned
    obtain ⟨items, listed, -⟩ := isNewest.belongs.listed
    refine ⟨?_, fun _ => ⟨name, best.modified, isNewest, by simp [path]⟩, fun distinct other => ?_⟩
    · simp only [Option.map_some, reduceCtorEq, false_iff, not_or, not_forall, not_not]
      exact ⟨by simp [listed], name, isNewest.belongs⟩
    · simp only [Option.map_some, path, Option.some.injEq]
      constructor
      · rintro ⟨time, h⟩
        rw [isNewest.eq distinct h]
      · intro same
        exact path_inj same ▸ ⟨best.modified, isNewest⟩

end

/-- **Selection.** Beside a binary whose build directory can be read, a lookup answers with the
newest entry of the package, and requiring the package fails only where the answer is none. -/
theorem resolve_selects (files : Files) (package binary : Bytes)
    (readable : Readable files package (buildDir binary)) :
    ∃ answer, resolve files package binary = .ok answer ∧
      Selection files package (buildDir binary) answer ∧
      (∀ path, require files package binary = .ok path ↔
        resolve files package binary = .ok (some path)) ∧
      (require files package binary = .error (.dependencyNotFound package (buildDir binary)) ↔
        resolve files package binary = .ok none) := by
  obtain ⟨found, scanned⟩ := readable.scan_isOk
  exact ⟨_, resolve_eq_ok_iff.2 ⟨found, scanned, rfl⟩, selection_of_scan readable scanned,
    fun _ => require_eq_ok_iff, require_eq_missing_iff⟩

/-- A machine with one directory, which holds some entries. A modification time can be missing. -/
def oneDirectory (dir : Bytes) (entries : List (EntryName × Option Instant)) : Files where
  list path := if path = dir then .ok ((entries.map (·.1)).map .ok) else .error .notFound
  modified path :=
    match entries.find? fun entry => dir ++ slash :: entry.1.bytes = path with
    | some (_, some time) => .ok time
    | some (_, none) => .error .permissionDenied
    | none => .error .notFound
  read _ := .error .notFound

/-- The name of an output. -/
def outputName : EntryName := ⟨Bytes.ascii "osmesa-src-7", by decide⟩

/-- The files of a machine with one output of the package in a directory. -/
def oneOutput (dir : Bytes) : Files :=
  oneDirectory dir [(outputName, some ⟨5, ⟨4, by decide⟩⟩)]

/-- Outputs of three builds, two of them from before the epoch and one with a name that is no text,
beside an entry of another package that tells no time. -/
def threeOutputs : List (EntryName × Option Instant) :=
  [(⟨Bytes.ascii "osmesa-src-1", by decide⟩, some ⟨-2, ⟨999999999, by decide⟩⟩),
    (⟨Bytes.ascii "osmesa-sys-1", by decide⟩, none),
    (⟨Bytes.ascii "osmesa-src-" ++ [0xff], by decide⟩, some ⟨-1, ⟨1, by decide⟩⟩),
    (⟨Bytes.ascii "osmesa-src-2", by decide⟩, some ⟨-1, ⟨0, by decide⟩⟩)]

theorem resolve_selects_before_epoch :
    let files := oneDirectory (Bytes.ascii "./build") threeOutputs
    let package := Bytes.ascii "osmesa-src"
    let binary := Bytes.ascii "wrench"
    Readable files package (buildDir binary) ∧
      ∃ answer, resolve files package binary = .ok answer ∧
        Selection files package (buildDir binary) answer ∧
        answer = some (Bytes.ascii "./build/osmesa-src-" ++ [0xff]) := by
  intro files package binary
  have readable : Readable files package (buildDir binary) := by
    refine .listed (threeOutputs.map (·.1)) rfl ?_
    simp only [threeOutputs, List.map_cons, List.map_nil, List.forall_mem_cons]
    exact ⟨fun _ => ⟨⟨-2, ⟨999999999, by decide⟩⟩, by decide +kernel⟩,
      fun starts => absurd starts (by decide), fun _ => ⟨⟨-1, ⟨1, by decide⟩⟩, by decide +kernel⟩,
      fun _ => ⟨⟨-1, ⟨0, by decide⟩⟩, by decide +kernel⟩, fun _ mem => nomatch mem⟩
  obtain ⟨answer, resolved, selection, -⟩ := resolve_selects files package binary readable
  have evaluated : resolve files package binary = .ok (some (Bytes.ascii "./build/osmesa-src-" ++ [0xff])) := by
    decide +kernel
  exact ⟨readable, answer, resolved, selection, Except.ok.inj (resolved.symm.trans evaluated)⟩

end Offscreen.Lookup
