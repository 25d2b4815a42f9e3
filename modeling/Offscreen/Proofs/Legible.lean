import Offscreen.Proofs.Assignments
import Offscreen.Proofs.IllFormed
import Offscreen.Proofs.Overrides

/-!
# Reading the text of overrides back

Each variable stands in the text of overrides by itself: its lines are the same whatever stands before and
behind it. A value without a newline takes one line, which shows U+FFFD for what is ill-formed in it and is
exact where it is text (`OwnLine`). So overrides whose names can be told from their values are known from
their text (`text_reads_back`).
-/

namespace Offscreen.Overrides
set_option autoImplicit false

/-- A name that can be told from what stands around it in a line. -/
structure Legible (name : Bytes) : Prop where
  text : Utf8.isText name = true
  apart : equals ∉ name
  line : newline ∉ name

/-- Overrides of which nothing is lost in their text. -/
structure Readable (overrides : Overrides) : Prop where
  names : ∀ name ∈ overrides.names, Legible name
  values : ∀ entry ∈ overrides.values.entries, Utf8.isText entry.2 = true ∧ newline ∉ entry.2

/-- A variable with its value as it is shown. -/
def shownEntry (entry : Bytes × Bytes) : Bytes × Bytes :=
  (entry.1, Utf8.encode (Utf8.lossy entry.2))

/-- The line of a variable without its end. -/
def shownLine (entry : Bytes × Bytes) : Bytes :=
  Assignments.spell (shownEntry entry)

/-- How a variable with a value without newlines stands in the text of overrides. -/
structure OwnLine (entry : Bytes × Bytes) : Prop where
  /-- It takes one line: its name, an equals sign and the value that is shown. -/
  whole : (shownLine entry).splitOn newline = [entry.1 ++ equals :: Utf8.encode (Utf8.lossy entry.2)]
  /-- The first equals sign of that line stands behind the name. -/
  cut : Assignments.assignment? (shownLine entry) = some (entry.1, Utf8.encode (Utf8.lossy entry.2))
  /-- What is shown, and nothing else, is the value with U+FFFD for each maximal ill-formed part. -/
  replaced : ∀ text, Utf8.Replaced entry.2 text ↔ Utf8.lossy entry.2 = text
  /-- Text is shown as it is. -/
  exact : Utf8.isText entry.2 = true → Utf8.encode (Utf8.lossy entry.2) = entry.2

theorem Legible.fits {entry : Bytes × Bytes} (h : Legible entry.1) (line : newline ∉ entry.2) :
    Assignments.Fits (shownEntry entry) where
  apart := h.apart
  name := h.line
  value := fun mem => line (Utf8.mem_of_mem_encode_lossy (by decide) mem)

theorem Legible.ownLine {entry : Bytes × Bytes} (h : Legible entry.1) (line : newline ∉ entry.2) :
    OwnLine entry where
  whole := List.splitOn_eq_singleton (Assignments.fits_iff.1 (h.fits line)).2
  cut := Assignments.assignment?_eq_some_iff.2 ⟨h.apart, rfl⟩
  replaced := fun _ => Utf8.replaced_iff
  exact := Utf8.encode_lossy

section

variable {overrides : Overrides} (legible : ∀ name ∈ overrides.names, Legible name)
include legible

theorem legible_of_mem {entry : Bytes × Bytes} (mem : entry ∈ overrides.values.entries) : Legible entry.1 :=
  legible entry.1 (List.mem_map_of_mem mem)

/-- The text has the entries with their values as they are shown. -/
theorem ofText_text_of_legible :
    Bytes.ofText overrides.text = Assignments.write (overrides.values.entries.map shownEntry) := by
  rw [Assignments.ofText_text]
  congr 1
  apply List.map_congr_left
  intro entry mem
  rw [Assignments.shown, Utf8.encode_lossy (legible_of_mem legible mem).text, shownEntry]

/-- Each variable has its own lines, whatever stands around it. -/
theorem lines_of_legible : Assignments.lines? (Bytes.ofText overrides.text) =
    some (overrides.values.entries.flatMap fun entry => (shownLine entry).splitOn newline) := by
  rw [ofText_text_of_legible legible, Assignments.write, Assignments.lines?_unlines, List.map_map,
    List.flatMap_map]
  rfl

theorem read?_of_legible (lines : ∀ entry ∈ overrides.values.entries, newline ∉ entry.2) :
    Assignments.read? (Bytes.ofText overrides.text) = some (overrides.values.entries.map shownEntry) := by
  rw [ofText_text_of_legible legible, Assignments.read?_write_iff]
  intro entry mem
  obtain ⟨held, held_mem, rfl⟩ := List.mem_map.1 mem
  exact (legible_of_mem legible held_mem).fits (lines held held_mem)

end

variable {overrides other : Overrides}

theorem Readable.read?_eq (h : Readable overrides) :
    Assignments.read? (Bytes.ofText overrides.text) = some overrides.values.entries := by
  have unchanged : ∀ entry ∈ overrides.values.entries, shownEntry entry = entry := by
    intro entry mem
    rw [shownEntry, Utf8.encode_lossy (h.values entry mem).1]
  have same : overrides.values.entries.map shownEntry = overrides.values.entries :=
    (List.map_congr_left unchanged).trans (List.map_id' _)
  rw [read?_of_legible h.names fun entry mem => (h.values entry mem).2, same]

/-- Overrides of which nothing is lost are told apart by their texts. -/
theorem Readable.eq_of_text (h : Readable overrides) (h' : Readable other) (same : overrides.text = other.text) :
    overrides = other := by
  have entries : overrides.values.entries = other.values.entries := by
    apply Option.some.inj
    rw [← h.read?_eq, ← h'.read?_eq, same]
  apply ext
  intro name
  simp only [get?, ByteMap.get?, entries]

/-- **The text of overrides reads back.** Names and values that are text without newlines are recovered in
order, so the text tells such overrides apart. What is ill-formed in a value changes the line of that variable
only, and nothing in it but what is ill-formed. -/
theorem text_reads_back (overrides : Overrides) (legible : ∀ name ∈ overrides.names, Legible name) :
    (Assignments.lines? (Bytes.ofText overrides.text) =
      some (overrides.values.entries.flatMap fun entry => (shownLine entry).splitOn newline)) ∧
    (∀ entry ∈ overrides.values.entries, newline ∉ entry.2 → OwnLine entry) ∧
    ((∀ entry ∈ overrides.values.entries, newline ∉ entry.2) →
      Assignments.read? (Bytes.ofText overrides.text) = some (overrides.values.entries.map shownEntry)) ∧
    (Readable overrides →
      Assignments.read? (Bytes.ofText overrides.text) = some overrides.values.entries ∧
      ∀ other, Readable other → overrides.text = other.text → overrides = other) := by
  refine ⟨lines_of_legible legible, ?_, read?_of_legible legible, ?_⟩
  · intro entry mem line
    exact (legible_of_mem legible mem).ownLine line
  · intro readable
    refine ⟨readable.read?_eq, ?_⟩
    intro other readable' same
    exact readable.eq_of_text readable' same

/-- A character that is broken off behind an equals sign swallows neither that sign nor the end of the line. -/
theorem text_reads_back_of_broken_off :
    let overrides := ((empty.set [] [equals]).set (Bytes.ascii "A") [0xe2, 0x82]).set (Bytes.ascii "B") []
    (∀ name ∈ overrides.names, Legible name) ∧
      Assignments.read? (Bytes.ofText overrides.text) =
        some [([], [equals]), (Bytes.ascii "A", [0xef, 0xbf, 0xbd]), (Bytes.ascii "B", [])] := by
  intro overrides
  have checked : ∀ name ∈ overrides.names, Utf8.isText name = true ∧ equals ∉ name ∧ newline ∉ name := by decide
  have legible : ∀ name ∈ overrides.names, Legible name := fun name mem =>
    ⟨(checked name mem).1, (checked name mem).2.1, (checked name mem).2.2⟩
  have lines : ∀ entry ∈ overrides.values.entries, newline ∉ entry.2 := by decide
  obtain ⟨-, -, read, -⟩ := text_reads_back overrides legible
  exact ⟨legible, (read lines).trans (by decide)⟩

end Offscreen.Overrides
