import Offscreen.Bytes

/-!
# Cutting byte strings

A byte string is cut at the first of its marks: what stands before it holds no mark, and nothing else is
lost (`cut_eq_some_iff`). Splitting it at every mark leaves parts without marks (`not_mem_of_mem_splitOn`), and
joining the parts of several byte strings gives what joining these gives (`intercalate_flatMap_splitOn`).
-/

namespace Offscreen.Bytes
set_option autoImplicit false

variable {mark : UInt8} {name value bytes : Bytes}

theorem cut_append (h : mark ∉ name) (value : Bytes) :
    cut mark (name ++ mark :: value) = (name, some value) := by
  induction name with
  | nil => simp [cut]
  | cons b rest ih =>
    obtain ⟨ne, later⟩ := not_or.1 (fun k => h (List.mem_cons.2 k))
    simp only [List.cons_append, cut, ih later, if_neg (Ne.symm ne)]

theorem cut_of_not_mem (h : mark ∉ bytes) : cut mark bytes = (bytes, none) := by
  induction bytes with
  | nil => rfl
  | cons b rest ih =>
    obtain ⟨ne, later⟩ := not_or.1 (fun k => h (List.mem_cons.2 k))
    simp only [cut, ih later, if_neg (Ne.symm ne)]

/-- A cut loses nothing. -/
theorem eq_of_cut (mark : UInt8) (bytes : Bytes) :
    bytes = (cut mark bytes).1 ++ ((cut mark bytes).2.map (mark :: ·)).getD [] := by
  induction bytes with
  | nil => rfl
  | cons b rest ih =>
    unfold cut
    split
    · rename_i eq
      simp [eq]
    · simpa using ih

theorem not_mem_cut (mark : UInt8) (bytes : Bytes) : mark ∉ (cut mark bytes).1 := by
  induction bytes with
  | nil => exact List.not_mem_nil
  | cons b rest ih =>
    unfold cut
    split
    · exact List.not_mem_nil
    · rename_i ne
      exact fun mem => (List.mem_cons.1 mem).elim (fun same => ne same.symm) ih

/-- Every byte string is a part without a mark, or begins with one and a mark. -/
theorem part_induction {P : Bytes → Prop} (mark : UInt8) (last : ∀ part, mark ∉ part → P part)
    (first : ∀ part rest, mark ∉ part → P rest → P (part ++ mark :: rest)) (bytes : Bytes) : P bytes := by
  by_cases held : mark ∈ bytes
  · obtain ⟨part, rest, rfl, free⟩ := List.eq_append_cons_of_mem held
    exact first part rest free (part_induction mark last first rest)
  · exact last bytes held
termination_by bytes.length
decreasing_by
  simp_all
  omega

theorem not_mem_of_mem_splitOn {part : Bytes} (h : part ∈ bytes.splitOn mark) : mark ∉ part := by
  induction bytes using part_induction mark with
  | last whole free =>
    rw [List.splitOn_eq_singleton free, List.mem_singleton] at h
    rwa [h]
  | first before rest free ih =>
    rw [List.splitOn_append_cons_self, List.splitOn_eq_singleton free] at h
    rcases List.mem_append.1 h with here | later
    · rwa [List.mem_singleton.1 here]
    · exact ih later

/-- A byte string is cut in one way only. -/
theorem cut_eq_some_iff : cut mark bytes = (name, some value) ↔ mark ∉ name ∧ name ++ mark :: value = bytes := by
  constructor
  · intro h
    have before := not_mem_cut mark bytes
    have whole := eq_of_cut mark bytes
    rw [h] at before whole
    exact ⟨before, whole.symm⟩
  · rintro ⟨before, rfl⟩
    exact cut_append before value

/-- Lists that are joined one behind the other have one more mark between them. -/
theorem intercalate_append {front later : List Bytes} (nonempty : front ≠ []) (nonempty' : later ≠ []) :
    [mark].intercalate (front ++ later) = [mark].intercalate front ++ mark :: [mark].intercalate later := by
  induction front with
  | nil => exact absurd rfl nonempty
  | cons part rest ih =>
    by_cases last : rest = []
    · rw [last, List.singleton_append, List.intercalate_cons_of_ne_nil nonempty', List.intercalate_singleton]
      simp
    · have more : rest ++ later ≠ [] := List.append_ne_nil_of_left_ne_nil last later
      rw [List.cons_append, List.intercalate_cons_of_ne_nil more, List.intercalate_cons_of_ne_nil last, ih last]
      simp

/-- Splitting byte strings before they are joined changes nothing. -/
theorem intercalate_flatMap_splitOn (mark : UInt8) (values : List Bytes) :
    [mark].intercalate (values.flatMap (·.splitOn mark)) = [mark].intercalate values := by
  induction values with
  | nil => rfl
  | cons value rest ih =>
    by_cases last : rest = []
    · rw [last, List.flatMap_singleton, List.intercalate_splitOn, List.intercalate_singleton]
    · obtain ⟨next, mem⟩ := List.exists_mem_of_ne_nil rest last
      have more : rest.flatMap (·.splitOn mark) ≠ [] := fun none =>
        List.splitOn_ne_nil mark next (List.flatMap_eq_nil_iff.1 none next mem)
      rw [List.flatMap_cons, intercalate_append (List.splitOn_ne_nil mark value) more, ih,
        List.intercalate_splitOn, List.intercalate_cons_of_ne_nil last]
      simp

end Offscreen.Bytes
