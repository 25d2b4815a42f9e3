import Offscreen.Proofs.Lookup

/-!
# The last of the latest candidates

What `newest` keeps of a list is the better of what it keeps of two parts of the list, where the back part wins a
tie (`newest_append`). So it keeps the one candidate that no candidate before it is later than and every candidate
behind it is earlier than (`newest_eq_some_iff`).
-/

namespace Offscreen
set_option autoImplicit false

/-- When a candidate was modified, in nanoseconds since the epoch. -/
def Candidate.time (c : Candidate) : Int :=
  c.modified.sinceEpoch

namespace Lookup

/-! ## Two parts of a list -/

section

variable {best next : Candidate}

theorem later_of_le (le : best.time ≤ next.time) : later (some best) next = some next :=
  if_pos (Instant.le_iff_sinceEpoch.2 le)

theorem later_of_lt (lt : next.time < best.time) : later (some best) next = some best :=
  if_neg fun le => absurd (Instant.le_iff_sinceEpoch.1 le) (Int.not_le.2 lt)

/-- Of what is kept of two parts of a list, what is kept of the whole: a tie goes to the back part. -/
def latest (front back : Option Candidate) : Option Candidate :=
  match back with
  | none => front
  | some next => later front next

theorem latest_none_left (back : Option Candidate) : latest none back = back := by
  cases back <;> rfl

/-- A fold may begin anywhere in a list. -/
theorem later_latest (front back : Option Candidate) (next : Candidate) :
    later (latest front back) next = latest front (later back next) := by
  cases back with
  | none => rfl
  | some middle =>
    cases front with
    | none => exact (latest_none_left _).symm
    | some first =>
      show later (later (some first) middle) next = latest (some first) (later (some middle) next)
      rcases Int.lt_or_le middle.time first.time with older | newer
      · rw [later_of_lt older]
        rcases Int.lt_or_le next.time middle.time with oldest | between
        · rw [later_of_lt (Int.lt_trans oldest older), later_of_lt oldest]
          exact (later_of_lt older).symm
        · rw [later_of_le between]
          rfl
      · rw [later_of_le newer]
        rcases Int.lt_or_le next.time middle.time with oldest | newest
        · rw [later_of_lt oldest]
          exact (later_of_le newer).symm
        · rw [later_of_le newest]
          exact (later_of_le (Int.le_trans newer newest)).symm

theorem newest_append (front back : List Candidate) :
    newest (front ++ back) = latest (newest front) (newest back) := by
  induction back using List.reverseRecOn with
  | nil => rw [List.append_nil]; rfl
  | append_singleton back next ih =>
    rw [← List.append_assoc, newest_append_singleton, ih, newest_append_singleton, later_latest]

theorem newest_cons (first : Candidate) (rest : List Candidate) :
    newest (first :: rest) = latest (some first) (newest rest) :=
  newest_append [first] rest

end

/-! ## The candidate that is kept -/

/-- A candidate and those that stand before it and behind it in a list: it is the last of those that none is
later than. -/
structure LastLatest (before : List Candidate) (best : Candidate) (behind : List Candidate) : Prop where
  le : ∀ c ∈ before, c.time ≤ best.time
  lt : ∀ c ∈ behind, c.time < best.time

section

variable {before behind found : List Candidate} {best inserted : Candidate}

theorem IsNewest.time_le (h : IsNewest best found) {c : Candidate} (mem : c ∈ found) : c.time ≤ best.time :=
  Instant.le_iff_sinceEpoch.1 (h.le c mem)

/-- The last of the latest is kept: the fold takes it over whatever it has kept before, and gives it up for
nothing behind it. -/
theorem LastLatest.newest_eq (h : LastLatest before best behind) : newest (before ++ best :: behind) = some best := by
  have kept : newest (best :: behind) = some best := by
    rw [newest_cons]
    cases e : newest behind with
    | none => rfl
    | some next => exact later_of_lt (h.lt next (newest_isNewest e).mem)
  rw [newest_append, kept]
  cases e : newest before with
  | none => rfl
  | some first => exact later_of_le (h.le first (newest_isNewest e).mem)

theorem exists_lastLatest (h : newest found = some best) :
    ∃ before behind, found = before ++ best :: behind ∧ LastLatest before best behind := by
  induction found using List.reverseRecOn generalizing best with
  | nil => cases h
  | append_singleton front next ih =>
    rw [newest_append_singleton] at h
    cases e : newest front with
    | none =>
      obtain rfl := newest_eq_none_iff.1 e
      obtain rfl : next = best := Option.some.inj h
      exact ⟨[], [], rfl, by simp, by simp⟩
    | some first =>
      rw [e] at h
      rcases Int.lt_or_le next.time first.time with older | newer
      · obtain rfl : first = best := Option.some.inj ((later_of_lt older).symm.trans h)
        obtain ⟨before, behind, rfl, last⟩ := ih e
        refine ⟨before, behind ++ [next], by simp, last.le, ?_⟩
        intro c mem
        rcases List.mem_append.1 mem with old | new
        · exact last.lt c old
        · rwa [List.mem_singleton.1 new]
      · obtain rfl : next = best := Option.some.inj ((later_of_le newer).symm.trans h)
        refine ⟨front, [], rfl, ?_, by simp⟩
        intro c mem
        exact Int.le_trans ((newest_isNewest e).time_le mem) newer

theorem newest_eq_some_iff :
    newest found = some best ↔
      ∃ before behind, found = before ++ best :: behind ∧ LastLatest before best behind := by
  constructor
  · exact exists_lastLatest
  · rintro ⟨before, behind, rfl, last⟩
    exact last.newest_eq

/-! ## One more candidate -/

/-- A candidate that is older than the one that is kept may stand anywhere: before the latter or behind it. -/
theorem newest_insert_older (kept : newest (before ++ behind) = some best) (older : inserted.time < best.time) :
    newest (before ++ inserted :: behind) = some best := by
  obtain ⟨front, back, split, last⟩ := exists_lastLatest kept
  have le := Int.le_of_lt older
  rcases List.append_eq_append_iff.1 split with ⟨middle, rfl, rfl⟩ | ⟨middle, rfl, rest⟩
  · have moved : LastLatest (before ++ inserted :: middle) best back := by
      refine ⟨?_, last.lt⟩
      have old := List.forall_mem_append.1 last.le
      exact List.forall_mem_append.2 ⟨old.1, List.forall_mem_cons.2 ⟨le, old.2⟩⟩
    simpa using moved.newest_eq
  · cases middle with
    | nil =>
      obtain rfl : best :: back = behind := rest
      have moved : LastLatest (front ++ [inserted]) best back :=
        ⟨List.forall_mem_append.2 ⟨last.le, List.forall_mem_singleton.2 le⟩, last.lt⟩
      simpa using moved.newest_eq
    | cons first middle =>
      obtain ⟨rfl, rfl⟩ := List.cons.inj rest
      have moved : LastLatest front best (middle ++ inserted :: behind) := by
        refine ⟨last.le, ?_⟩
        have old := List.forall_mem_append.1 last.lt
        exact List.forall_mem_append.2 ⟨old.1, List.forall_mem_cons.2 ⟨older, old.2⟩⟩
      simpa using moved.newest_eq

/-- A candidate that is newer than the one that is kept is newer than all. -/
theorem newest_insert_newer (kept : newest (before ++ behind) = some best) (newer : best.time < inserted.time) :
    newest (before ++ inserted :: behind) = some inserted := by
  have all := newest_isNewest kept
  apply LastLatest.newest_eq
  refine ⟨fun c mem => ?_, fun c mem => ?_⟩
  · exact Int.le_of_lt (Int.lt_of_le_of_lt (all.time_le (List.mem_append_left _ mem)) newer)
  · exact Int.lt_of_le_of_lt (all.time_le (List.mem_append_right _ mem)) newer

end

/-- **The last of the latest is kept.** Nothing is kept of no candidates, and of some the last one that none is
later than, as it stands in the list. Of two parts of a list the back one decides, unless what is kept of it is
older than what is kept of the front one. So one more candidate, wherever it stands, is passed over if it is
older than the one that was kept, and is kept if it is newer. -/
theorem newest_keeps_last_of_latest :
    (∀ found, newest found = none ↔ found = []) ∧
    (∀ found best, newest found = some best ↔
      ∃ before behind, found = before ++ best :: behind ∧ LastLatest before best behind) ∧
    (∀ front back last, newest back = some last →
      (∀ first, newest front = some first → first.time ≤ last.time) → newest (front ++ back) = newest back) ∧
    (∀ front back,
      (∀ last, newest back = some last → ∃ first, newest front = some first ∧ last.time < first.time) →
      newest (front ++ back) = newest front) ∧
    ∀ before behind best inserted, newest (before ++ behind) = some best →
      (inserted.time < best.time → newest (before ++ inserted :: behind) = some best) ∧
      (best.time < inserted.time → newest (before ++ inserted :: behind) = some inserted) := by
  refine ⟨fun _ => newest_eq_none_iff, fun _ _ => newest_eq_some_iff, ?_, ?_, ?_⟩
  · intro front back last kept older
    rw [newest_append, kept]
    cases e : newest front with
    | none => rfl
    | some first => exact later_of_le (older first e)
  · intro front back older
    rw [newest_append]
    cases e : newest back with
    | none => rfl
    | some last =>
      obtain ⟨first, kept, lt⟩ := older last e
      rw [kept]
      exact later_of_lt lt
  · intro before behind best inserted kept
    exact ⟨newest_insert_older kept, newest_insert_newer kept⟩

/-- Of two outputs of one instant before the epoch the one that was listed last is kept, although one that is a
nanosecond older is listed before them and another one behind them. -/
theorem newest_keeps_last_of_latest_of_tied :
    let output := fun (name : String) (modified : Instant) =>
      (⟨Bytes.ascii name, modified, Bytes.ascii ("build/" ++ name)⟩ : Candidate)
    let found := [output "osmesa-src-c" ⟨-2, 999999999⟩, output "osmesa-src-a" ⟨-1, 0⟩]
    let kept := output "osmesa-src-b" ⟨-1, 0⟩
    let older := output "osmesa-src-d" ⟨-2, 999999999⟩
    newest (found ++ [kept] ++ []) = some kept ∧ older.time < kept.time ∧
      newest (found ++ [kept] ++ [older]) = some kept := by
  intro output found kept older
  obtain ⟨-, selects, -, -, inserts⟩ := newest_keeps_last_of_latest
  have last : LastLatest found kept [] := ⟨by decide, by decide⟩
  have selected : newest (found ++ [kept] ++ []) = some kept := (selects _ kept).2 ⟨found, [], rfl, last⟩
  have lt : older.time < kept.time := by decide
  exact ⟨selected, lt, (inserts (found ++ [kept]) [] kept older selected).1 lt⟩

end Lookup
end Offscreen
