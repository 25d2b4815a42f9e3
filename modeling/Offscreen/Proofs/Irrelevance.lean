import Offscreen.Tool
import Offscreen.Proofs.Obstacle

/-!
# What a lookup does not depend on

Neither the order of a listing nor the entries of other packages in it decide whether a lookup
succeeds and how new the entry is that it answers with. If no two entries of the package were modified
at the same instant, they decide nothing at all (`lookup_irrelevance`).
-/

namespace Offscreen.Lookup
set_option autoImplicit false

/-- Both states list a directory without a fault and with the same entries of a package, in any order,
and those entries have the same times or fail alike to tell them. Nothing is said of other entries. -/
structure Alike (package dir : Bytes) (a b : Files) : Prop where
  listed : ∃ names others : List EntryName,
    a.list dir = .ok (names.map .ok) ∧ b.list dir = .ok (others.map .ok) ∧
      (names.filter fun name => (stem package).isPrefixOf name.bytes).Perm
        (others.filter fun name => (stem package).isPrefixOf name.bytes)
  times : ∀ name, Belongs a package dir name →
    a.modified (dir ++ slash :: name.bytes) = b.modified (dir ++ slash :: name.bytes)

/-- Every entry of a package tells its time. -/
def Timed (files : Files) (package dir : Bytes) : Prop :=
  ∀ name, Belongs files package dir name →
    ∃ time, files.modified (dir ++ slash :: name.bytes) = .ok time

/-- What two lookups come to: both fail, or neither finds an entry, or both find entries of one time. -/
inductive Concord (a b : Files) (package binary : Bytes) : Prop where
  | failed (fault fault' : Fault) (first : resolve a package binary = .error fault)
      (second : resolve b package binary = .error fault')
  | absent (first : resolve a package binary = .ok none) (second : resolve b package binary = .ok none)
  | selected (path path' : Bytes) (time : Instant)
      (first : resolve a package binary = .ok (some path))
      (second : resolve b package binary = .ok (some path'))
      (modified : a.modified path = .ok time) (modified' : b.modified path' = .ok time)

section

variable {a b files : Files} {package dir binary : Bytes}

/-- In a listing without a fault an entry belongs to a package if the filter for its stem keeps it. -/
theorem belongs_iff_mem_filter {names : List EntryName} (listed : files.list dir = .ok (names.map .ok))
    {name : EntryName} : Belongs files package dir name ↔
      name ∈ names.filter fun name => (stem package).isPrefixOf name.bytes := by
  rw [List.mem_filter, List.isPrefixOf_iff_prefix]
  constructor
  · rintro ⟨⟨items, listed', mem⟩, starts⟩
    cases listed.symm.trans listed'
    obtain ⟨_, named, same⟩ := List.mem_map.1 mem
    cases same
    exact ⟨named, starts⟩
  · rintro ⟨named, starts⟩
    exact ⟨⟨_, listed, List.mem_map.2 ⟨name, named, rfl⟩⟩, starts⟩

theorem Alike.belongs_iff (alike : Alike package dir a b) {name : EntryName} :
    Belongs a package dir name ↔ Belongs b package dir name := by
  obtain ⟨names, others, listed, listed', perm⟩ := alike.listed
  rw [belongs_iff_mem_filter listed, belongs_iff_mem_filter listed', perm.mem_iff]

/-- Where every item of a listing could be read, only the time of an entry can be missing. -/
theorem unreadable_iff_of_listed {names : List EntryName} (listed : files.list dir = .ok (names.map .ok)) :
    Unreadable files package dir ↔ ∃ name cause, Belongs files package dir name ∧
      files.modified (dir ++ slash :: name.bytes) = .error cause := by
  constructor
  · intro unreadable
    cases unreadable with
    | directory cause failed => cases listed.symm.trans failed
    | entry items cause listed' mem =>
      cases listed.symm.trans listed'
      obtain ⟨_, -, same⟩ := List.mem_map.1 mem
      cases same
    | time items name cause listed' mem starts failed =>
      exact ⟨name, cause, ⟨⟨items, listed', mem⟩, starts⟩, failed⟩
  · rintro ⟨name, cause, ⟨⟨items, listed', mem⟩, starts⟩, failed⟩
    exact .time items name cause listed' mem starts failed

theorem Alike.unreadable_iff (alike : Alike package dir a b) :
    Unreadable a package dir ↔ Unreadable b package dir := by
  obtain ⟨names, others, listed, listed', -⟩ := alike.listed
  rw [unreadable_iff_of_listed listed, unreadable_iff_of_listed listed']
  constructor
  · rintro ⟨name, cause, belongs, failed⟩
    exact ⟨name, cause, alike.belongs_iff.1 belongs, alike.times name belongs ▸ failed⟩
  · rintro ⟨name, cause, belongs, failed⟩
    have belongs := alike.belongs_iff.2 belongs
    exact ⟨name, cause, belongs, (alike.times name belongs).trans failed⟩

/-- The scans of both states find the same candidates, if in another order. -/
theorem Alike.mem_iff (alike : Alike package (buildDir binary) a b) {found found' : List Candidate}
    (scanned : scan a package (buildDir binary) = .ok found)
    (scanned' : scan b package (buildDir binary) = .ok found') {c : Candidate} : c ∈ found ↔ c ∈ found' := by
  rw [mem_scan_buildDir_iff scanned, mem_scan_buildDir_iff scanned']
  constructor
  · rintro ⟨name, belongs, named, path, modified⟩
    refine ⟨name, alike.belongs_iff.1 belongs, named, path, ?_⟩
    rw [path, ← alike.times name belongs, ← path, modified]
  · rintro ⟨name, belongs, named, path, modified⟩
    have belongs := alike.belongs_iff.2 belongs
    refine ⟨name, belongs, named, path, ?_⟩
    rw [path, alike.times name belongs, ← path, modified]

/-- The newest of the same candidates is equally new in any order. -/
theorem IsNewest.modified_eq {found found' : List Candidate} {best best' : Candidate}
    (same : ∀ c, c ∈ found ↔ c ∈ found') (h : IsNewest best found) (k : IsNewest best' found') :
    best.modified = best'.modified :=
  Std.le_antisymm (k.le _ ((same _).1 h.mem)) (h.le _ ((same _).2 k.mem))

/-- A selected candidate has the time that its path tells. -/
theorem modified_of_newest {found : List Candidate} {best : Candidate}
    (scanned : scan files package (buildDir binary) = .ok found) (selected : newest found = some best) :
    files.modified best.path = .ok best.modified := by
  obtain ⟨_, -, -, -, modified⟩ := (mem_scan_buildDir_iff scanned).1 (newest_isNewest selected).mem
  exact modified

theorem newest_eq_none_congr {found found' : List Candidate} (same : ∀ c, c ∈ found ↔ c ∈ found') :
    newest found = none ↔ newest found' = none := by
  rw [newest_eq_none_iff, newest_eq_none_iff, List.eq_nil_iff_forall_not_mem, List.eq_nil_iff_forall_not_mem]
  simp only [same]

/-- Two scans that succeed select nothing, or candidates of one time. -/
theorem Alike.concord_of_scanned (alike : Alike package (buildDir binary) a b) {found found' : List Candidate}
    (scanned : scan a package (buildDir binary) = .ok found)
    (scanned' : scan b package (buildDir binary) = .ok found') : Concord a b package binary := by
  have same (c : Candidate) : c ∈ found ↔ c ∈ found' := alike.mem_iff scanned scanned'
  have first := resolve_eq_ok_iff.2 ⟨found, scanned, rfl⟩
  have second := resolve_eq_ok_iff.2 ⟨found', scanned', rfl⟩
  cases selected : newest found with
  | none =>
    have selected' : newest found' = none := (newest_eq_none_congr same).1 selected
    rw [selected] at first
    rw [selected'] at second
    exact .absent first second
  | some best =>
    have present : newest found' ≠ none := by
      intro none
      rw [(newest_eq_none_congr same).2 none] at selected
      cases selected
    obtain ⟨best', selected'⟩ := Option.ne_none_iff_exists'.1 present
    rw [selected] at first
    rw [selected'] at second
    have time := (newest_isNewest selected).modified_eq same (newest_isNewest selected')
    have modified' := modified_of_newest scanned' selected'
    rw [← time] at modified'
    exact .selected best.path best'.path best.modified first second (modified_of_newest scanned selected) modified'

theorem Alike.concord (alike : Alike package (buildDir binary) a b) : Concord a b package binary := by
  by_cases fails : Unreadable a package (buildDir binary)
  · obtain ⟨fault, first⟩ := resolve_fails_iff.2 fails
    obtain ⟨fault', second⟩ := resolve_fails_iff.2 (alike.unreadable_iff.1 fails)
    exact .failed fault fault' first second
  · obtain ⟨found, scanned⟩ := scan_of_readable fails
    obtain ⟨found', scanned'⟩ := scan_of_readable (mt alike.unreadable_iff.2 fails)
    exact alike.concord_of_scanned scanned scanned'

/-- Entries that tell distinct times are told apart by them, so both lookups answer with the same one. -/
theorem Alike.resolve_eq (alike : Alike package (buildDir binary) a b)
    (timed : Timed a package (buildDir binary)) (distinct : Distinct a package (buildDir binary)) :
    resolve a package binary = resolve b package binary := by
  cases alike.concord with
  | failed fault _ first =>
    obtain ⟨names, -, listed, -, -⟩ := alike.listed
    obtain ⟨name, cause, belongs, failed⟩ :=
      (unreadable_iff_of_listed listed).1 (resolve_fails_iff.1 ⟨fault, first⟩)
    obtain ⟨time, told⟩ := timed name belongs
    cases failed.symm.trans told
  | absent first second => rw [first, second]
  | selected path path' time first second modified modified' =>
    obtain ⟨name, belongs, rfl⟩ := belongs_of_resolve first
    obtain ⟨name', belongs', rfl⟩ := belongs_of_resolve second
    have belongs' := alike.belongs_iff.2 belongs'
    rw [← alike.times name' belongs'] at modified'
    rw [first, second, distinct name name' time belongs belongs' modified modified']

end

/-- The setup reads the files only where it looks the package up. -/
theorem configure_congr {a b : Files} {binary : Bytes}
    (same : require a Rendering.package binary = require b Rendering.package binary) (platform : Platform) :
    Rendering.configure a platform binary = Rendering.configure b platform binary := by
  cases platform <;> simp only [Rendering.configure, same]

variable (a b : Files) (binary : Bytes) in
/-- Nothing that is looked up beside a binary tells two states apart. -/
structure Indistinct : Prop where
  resolve_eq : resolve a Rendering.package binary = resolve b Rendering.package binary
  require_eq : require a Rendering.package binary = require b Rendering.package binary
  configure_eq : ∀ platform,
    Rendering.configure a platform binary = Rendering.configure b platform binary
  envText_eq : ∀ config : Config, config.wrenchBin = binary → ∀ platform,
    Tool.envText a config platform = Tool.envText b config platform

theorem Indistinct.of_resolve_eq {a b : Files} {binary : Bytes}
    (same : resolve a Rendering.package binary = resolve b Rendering.package binary) :
    Indistinct a b binary := by
  have required : require a Rendering.package binary = require b Rendering.package binary := by
    simp only [require, same]
  refine ⟨same, required, configure_congr required, ?_⟩
  rintro config rfl platform
  simp only [Tool.envText, configure_congr required]

/-- **Irrelevance.** The order of a listing and the entries of other packages decide neither whether the
lookup of the libraries succeeds nor how new the entry is that it finds; and they decide nothing where
the entries of the package tell distinct times. -/
theorem lookup_irrelevance (a b : Files) (binary : Bytes)
    (alike : Alike Rendering.package (buildDir binary) a b) :
    Concord a b Rendering.package binary ∧
      (Timed a Rendering.package (buildDir binary) → Distinct a Rendering.package (buildDir binary) →
        Indistinct a b binary) :=
  ⟨alike.concord, fun timed distinct => .of_resolve_eq (alike.resolve_eq timed distinct)⟩

/-- The name of an output. -/
def plainName : EntryName := ⟨Bytes.ascii "osmesa-src-plain", by decide⟩

/-- The name of an output that is no text. -/
def strangeName : EntryName := ⟨Bytes.ascii "osmesa-src-" ++ [0xfe], by decide⟩

/-- Two outputs, one from before the epoch. -/
def twoOutputs : List (EntryName × Option Instant) :=
  [(plainName, some ⟨-2, ⟨500000000, by decide⟩⟩), (strangeName, some ⟨7, ⟨3, by decide⟩⟩)]

/-- The same outputs the other way round, among entries of other packages that tell no time. -/
def crowdedOutputs : List (EntryName × Option Instant) :=
  [(⟨Bytes.ascii "osmesa-sys-plain", by decide⟩, none), (strangeName, some ⟨7, ⟨3, by decide⟩⟩),
    (⟨Bytes.ascii "osmesa-src", by decide⟩, none), (plainName, some ⟨-2, ⟨500000000, by decide⟩⟩)]

theorem lookup_irrelevance_of_crowded :
    let a := oneDirectory (Bytes.ascii "./build") twoOutputs
    let b := oneDirectory (Bytes.ascii "./build") crowdedOutputs
    let binary := Bytes.ascii "wrench"
    Alike Rendering.package (buildDir binary) a b ∧ Timed a Rendering.package (buildDir binary) ∧
      Distinct a Rendering.package (buildDir binary) ∧ Indistinct a b binary := by
  intro a b binary
  have listed : a.list (buildDir binary) = .ok ((twoOutputs.map (·.1)).map .ok) := rfl
  have either {name : EntryName} (belongs : Belongs a Rendering.package (buildDir binary) name) :
      name = plainName ∨ name = strangeName := by
    have mem := (List.mem_filter.1 ((belongs_iff_mem_filter listed).1 belongs)).1
    simpa [twoOutputs] using mem
  have alike : Alike Rendering.package (buildDir binary) a b := by
    refine ⟨⟨_, crowdedOutputs.map (·.1), listed, rfl, by decide +kernel⟩, fun name belongs => ?_⟩
    rcases either belongs with rfl | rfl <;> decide +kernel
  have timed : Timed a Rendering.package (buildDir binary) := by
    intro name belongs
    rcases either belongs with rfl | rfl
    · exact ⟨⟨-2, ⟨500000000, by decide⟩⟩, by decide +kernel⟩
    · exact ⟨⟨7, ⟨3, by decide⟩⟩, by decide +kernel⟩
  have distinct : Distinct a Rendering.package (buildDir binary) := by
    intro name other time belongs belongs' modified modified'
    have same := modified.trans modified'.symm
    rcases either belongs with rfl | rfl <;> rcases either belongs' with rfl | rfl
    · rfl
    · exact absurd same (by decide +kernel)
    · exact absurd same (by decide +kernel)
    · rfl
  exact ⟨alike, timed, distinct, (lookup_irrelevance a b binary alike).2 timed distinct⟩

end Offscreen.Lookup
