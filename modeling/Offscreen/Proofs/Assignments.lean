import Offscreen.Overrides
import Offscreen.Proofs.Bytes
import Offscreen.Proofs.Utf8

/-!
# Reading assignments back

A text of lines `NAME=VALUE` is read line by line, and each line is cut at its first `=`. What is read are
the entries that were written exactly if each of them fits a line of its own (`read?_eq_some_iff`). The
text of overrides is such a text (`ofText_text`), and what is read of it are the overrides themselves
where these are text and fit lines of their own.
-/

namespace Offscreen.Assignments
set_option autoImplicit false

/-- The lines of a text, if each of them has its end. -/
def lines? (text : Bytes) : Option (List Bytes) :=
  let parts := text.splitOn newline
  if parts.getLast? = some [] then some parts.dropLast else none

/-- The name and the value of a line. -/
def assignment? (line : Bytes) : Option (Bytes × Bytes) :=
  let (name, value) := Bytes.cut equals line
  value.map (name, ·)

/-- The entries that the lines of a text assign. -/
def read? (text : Bytes) : Option (List (Bytes × Bytes)) :=
  (lines? text).bind fun lines => lines.mapM assignment?

/-- The line of an entry without its end. -/
def spell (entry : Bytes × Bytes) : Bytes :=
  entry.1 ++ equals :: entry.2

/-- Lines with their ends. -/
def unlines (lines : List Bytes) : Bytes :=
  lines.flatMap (· ++ [newline])

/-- The text of entries. -/
def write (entries : List (Bytes × Bytes)) : Bytes :=
  unlines (entries.map spell)

/-- Whether a line of its own can hold an entry. -/
structure Fits (entry : Bytes × Bytes) : Prop where
  apart : equals ∉ entry.1
  name : newline ∉ entry.1
  value : newline ∉ entry.2

/-! ## Lines -/

variable {text line : Bytes} {lines : List Bytes}

theorem unlines_cons (line : Bytes) (lines : List Bytes) :
    unlines (line :: lines) = line ++ newline :: unlines lines := by
  simp [unlines]

/-- What stands before a newline is read apart from what stands after it. -/
theorem lines?_append (front rest : Bytes) :
    lines? (front ++ newline :: rest) = (lines? rest).map (front.splitOn newline ++ ·) := by
  have nonempty := List.splitOn_ne_nil newline rest
  have last : (rest.splitOn newline).getLast?.isSome := List.getLast?_isSome.2 nonempty
  simp only [lines?, List.splitOn_append_cons_self, List.getLast?_append, Option.or_of_isSome last,
    List.dropLast_append_of_ne_nil nonempty]
  split <;> rfl

theorem lines?_cons (free : newline ∉ line) (rest : Bytes) :
    lines? (line ++ newline :: rest) = (lines? rest).map (line :: ·) := by
  rw [lines?_append, List.splitOn_eq_singleton free]
  rfl

theorem lines?_of_not_mem (free : newline ∉ text) : lines? text = if text = [] then some [] else none := by
  simp [lines?, List.splitOn_eq_singleton free]

/-- The lines of a text are those stretches without newlines that it has when each gets its end. -/
theorem lines?_eq_some_iff : lines? text = some lines ↔ (∀ line ∈ lines, newline ∉ line) ∧ unlines lines = text := by
  induction text using Bytes.part_induction newline generalizing lines with
  | last text free =>
    rw [lines?_of_not_mem free]
    cases lines with
    | nil => simp [unlines, eq_comm]
    | cons line rest =>
      constructor
      · split <;> simp
      · rintro ⟨-, rfl⟩
        simp [unlines_cons] at free
  | first line rest free ih =>
    rw [lines?_cons free, Option.map_eq_some_iff]
    constructor
    · rintro ⟨later, read, rfl⟩
      obtain ⟨frees, rfl⟩ := ih.1 read
      exact ⟨List.forall_mem_cons.2 ⟨free, frees⟩, unlines_cons line later⟩
    · rintro ⟨frees, whole⟩
      cases lines with
      | nil => simp [unlines] at whole
      | cons line' later =>
        obtain ⟨free', others⟩ := List.forall_mem_cons.1 frees
        rw [unlines_cons] at whole
        have same := Bytes.cut_append free' (unlines later)
        rw [whole, Bytes.cut_append free] at same
        obtain ⟨rfl, rest'⟩ := Prod.mk.inj same
        exact ⟨later, ih.2 ⟨others, (Option.some.inj rest').symm⟩, rfl⟩

/-- A text has as many lines as newlines. -/
theorem length_lines? (h : lines? text = some lines) : lines.length = text.count newline := by
  obtain ⟨frees, rfl⟩ := lines?_eq_some_iff.1 h
  clear h
  induction lines with
  | nil => rfl
  | cons line rest ih =>
    obtain ⟨free, frees⟩ := List.forall_mem_cons.1 frees
    rw [unlines_cons, List.count_append, List.count_cons_self, List.count_eq_zero.2 free, ← ih frees,
      List.length_cons, Nat.zero_add]

/-- Each stretch that gets its end stands for its own lines, whatever stands around it. -/
theorem lines?_unlines (chunks : List Bytes) :
    lines? (unlines chunks) = some (chunks.flatMap fun chunk => chunk.splitOn newline) := by
  induction chunks with
  | nil => rfl
  | cons chunk rest ih =>
    rw [unlines_cons, lines?_append, ih, List.flatMap_cons]
    rfl

/-! ## Entries -/

variable {entries : List (Bytes × Bytes)}

theorem assignment?_eq_some_iff {entry : Bytes × Bytes} :
    assignment? line = some entry ↔ equals ∉ entry.1 ∧ spell entry = line := by
  obtain ⟨name, value⟩ := entry
  rw [spell, ← Bytes.cut_eq_some_iff]
  unfold assignment?
  rcases Bytes.cut equals line with ⟨before, after⟩
  cases after <;> simp

theorem mapM_assignment?_eq_some_iff :
    lines.mapM assignment? = some entries ↔ (∀ entry ∈ entries, equals ∉ entry.1) ∧ entries.map spell = lines := by
  induction lines generalizing entries with
  | nil => cases entries <;> simp
  | cons line rest ih =>
    simp only [List.mapM_cons, Option.pure_def, Option.bind_eq_bind, Option.bind_eq_some_iff,
      Option.some.injEq]
    constructor
    · rintro ⟨entry, first, later, others, rfl⟩
      obtain ⟨apart, rfl⟩ := assignment?_eq_some_iff.1 first
      obtain ⟨aparts, rfl⟩ := ih.1 others
      exact ⟨List.forall_mem_cons.2 ⟨apart, aparts⟩, rfl⟩
    · rintro ⟨aparts, spelt⟩
      obtain ⟨entry, later, rfl, first, others⟩ := List.map_eq_cons_iff.1 spelt
      obtain ⟨apart, aparts⟩ := List.forall_mem_cons.1 aparts
      exact ⟨entry, assignment?_eq_some_iff.2 ⟨apart, first⟩, later, ih.2 ⟨aparts, others⟩, rfl⟩

theorem newline_not_mem_spell {entry : Bytes × Bytes} :
    newline ∉ spell entry ↔ newline ∉ entry.1 ∧ newline ∉ entry.2 := by
  simp [spell, show newline ≠ equals by decide]

theorem fits_iff {entry : Bytes × Bytes} : Fits entry ↔ equals ∉ entry.1 ∧ newline ∉ spell entry := by
  rw [newline_not_mem_spell]
  constructor
  · rintro ⟨apart, name, value⟩
    exact ⟨apart, name, value⟩
  · rintro ⟨apart, name, value⟩
    exact ⟨apart, name, value⟩

/-- **Reading back.** The entries that are read of a text are those that it is the text of and that fit a
line each. -/
theorem read?_eq_some_iff : read? text = some entries ↔ (∀ entry ∈ entries, Fits entry) ∧ write entries = text := by
  simp only [read?, Option.bind_eq_some_iff, lines?_eq_some_iff, mapM_assignment?_eq_some_iff]
  constructor
  · rintro ⟨_, ⟨free, whole⟩, aparts, rfl⟩
    refine ⟨?_, whole⟩
    intro entry mem
    have line := free (spell entry) (List.mem_map_of_mem mem)
    exact fits_iff.2 ⟨aparts entry mem, line⟩
  · rintro ⟨fits, whole⟩
    refine ⟨entries.map spell, ⟨?_, whole⟩, ?_, rfl⟩
    · intro line mem
      obtain ⟨entry, held, rfl⟩ := List.mem_map.1 mem
      exact (fits_iff.1 (fits entry held)).2
    · intro entry mem
      exact (fits entry mem).apart

theorem read?_write_iff : read? (write entries) = some entries ↔ ∀ entry ∈ entries, Fits entry := by
  rw [read?_eq_some_iff, and_iff_left rfl]

/-- The text of entries has a line for each of them, and no other line exactly if no newline stands within
them. -/
theorem exists_lines?_write (entries : List (Bytes × Bytes)) :
    ∃ lines, lines? (write entries) = some lines ∧ entries.length ≤ lines.length ∧
      (lines.length = entries.length ↔ ∀ entry ∈ entries, newline ∉ spell entry) := by
  have read := lines?_unlines (entries.map spell)
  refine ⟨_, read, ?_⟩
  rw [length_lines? read]
  clear read
  induction entries with
  | nil => simp [unlines]
  | cons entry rest ih =>
    obtain ⟨least, exact_iff⟩ := ih
    rw [List.map_cons, unlines_cons, List.count_append, List.count_cons_self, List.length_cons,
      List.forall_mem_cons, ← exact_iff, ← List.count_eq_zero]
    omega

/-! ## The text of overrides -/

/-- An entry with each of its parts as it is shown. -/
def shown (entry : Bytes × Bytes) : Bytes × Bytes :=
  (Utf8.encode (Utf8.lossy entry.1), Utf8.encode (Utf8.lossy entry.2))

theorem shown_of_isText {entry : Bytes × Bytes} (name : Utf8.isText entry.1 = true)
    (value : Utf8.isText entry.2 = true) : shown entry = entry := by
  rw [shown, Utf8.encode_lossy name, Utf8.encode_lossy value]

/-- The text of overrides has the entries as they are shown. -/
theorem ofText_text (overrides : Overrides) :
    Bytes.ofText overrides.text = write (overrides.values.entries.map shown) := by
  have eq : String.utf8EncodeChar '=' = [equals] := rfl
  have nl : String.utf8EncodeChar '\n' = [newline] := rfl
  rw [Overrides.text, Bytes.ofText, String.toList_ofList, Overrides.lines, write, unlines]
  simp only [Utf8.encode, List.flatMap_assoc, List.flatMap_map]
  congr 1
  funext entry
  simp [Overrides.line, shown, spell, Utf8.encode, eq, nl]

theorem ofText_text_of_isText {overrides : Overrides}
    (text : ∀ entry ∈ overrides.values.entries, Utf8.isText entry.1 = true ∧ Utf8.isText entry.2 = true) :
    Bytes.ofText overrides.text = write overrides.values.entries := by
  rw [ofText_text, List.map_congr_left fun entry mem => shown_of_isText (text entry mem).1 (text entry mem).2,
    List.map_id']

end Offscreen.Assignments
