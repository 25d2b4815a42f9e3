import Offscreen.Command
import Offscreen.Proofs.IllFormed

/-!
# How a command is shown

An ASCII byte is read as itself wherever it stands, so byte strings that are joined with one are shown as their
texts joined with its character (`lossy_intercalate`). A command that some program can be given is therefore
shown as its words with spaces between them would be, were they one byte string (`describe_eq_shown`).
-/

namespace Offscreen
set_option autoImplicit false

namespace Utf8
variable {mark : UInt8}

/-- Byte strings that are joined are shown as their texts joined. -/
theorem lossy_intercalate (ascii : mark < 0x80) (words : List Bytes) :
    lossy ([mark].intercalate words) = [Char.ofNat mark.toNat].intercalate (words.map lossy) := by
  induction words with
  | nil => rfl
  | cons word rest ih =>
    by_cases last : rest = []
    · rw [last, List.intercalate_singleton, List.map_singleton, List.intercalate_singleton]
    · have more : rest.map lossy ≠ [] := fun none => last (List.map_eq_nil_iff.1 none)
      rw [List.map_cons, List.intercalate_cons_of_ne_nil last, List.intercalate_cons_of_ne_nil more, ← ih,
        List.append_assoc, List.append_assoc]
      exact lossy_append_ascii ascii word _

theorem isText_intercalate (ascii : mark < 0x80) {words : List Bytes}
    (text : ∀ word ∈ words, isText word = true) : isText ([mark].intercalate words) = true := by
  induction words with
  | nil => rfl
  | cons word rest ih =>
    obtain ⟨first, later⟩ := List.forall_mem_cons.1 text
    by_cases last : rest = []
    · rwa [last, List.intercalate_singleton]
    · rw [List.intercalate_cons_of_ne_nil last, List.append_assoc]
      exact (isText_append_ascii ascii word _).2 ⟨first, ih later⟩

end Utf8

namespace Command

/-- The words of a command with spaces between them. -/
def rawLine (command : Command) : Bytes :=
  [space].intercalate command.words

variable {command : Command}

/-- Words that a program can be given are shown as they are. -/
theorem describe_eq_shown (free : ∀ word ∈ command.words, nul ∉ word) :
    command.describe = command.rawLine.shown := by
  have shown : (command.words.map fun word => Utf8.lossy (shownWord word)) = command.words.map Utf8.lossy := by
    apply List.map_congr_left
    intro word mem
    rw [shownWord, if_neg (free word mem)]
  rw [describe, shown, Bytes.shown, rawLine, Utf8.lossy_intercalate (by decide)]
  rfl

/-- **A command is shown as the text of its words.** Reading each word by itself and joining the texts gives what
reading the words joined with spaces gives: their text, with U+FFFD for each maximal ill-formed part and nothing
else changed. For what stands before an ASCII byte is read apart from what stands behind it. -/
theorem describe_reads_raw_line (command : Command) (free : ∀ word ∈ command.words, nul ∉ word) :
    command.describe = Bytes.shown ([space].intercalate (command.program :: command.args)) ∧
    (∀ text, Utf8.Replaced ([space].intercalate (command.program :: command.args)) text ↔
      command.describe.toList = text) ∧
    ((∀ word ∈ command.words, ∃ text, Utf8.encode text = word) →
      Bytes.ofText command.describe = [space].intercalate (command.program :: command.args)) ∧
    ∀ before after c, c < 0x80 →
      Utf8.lossy (before ++ c :: after) = Utf8.lossy before ++ Char.ofNat c.toNat :: Utf8.lossy after := by
  have whole : command.describe = command.rawLine.shown := describe_eq_shown free
  have characters : command.describe.toList = Utf8.lossy command.rawLine := by
    rw [whole, Bytes.shown, String.toList_ofList]
  refine ⟨whole, ?_, ?_, ?_⟩
  · intro text
    rw [characters]
    exact Utf8.replaced_iff
  · intro texts
    have text : Utf8.isText command.rawLine = true :=
      Utf8.isText_intercalate (by decide) fun word mem => Utf8.isText_iff.2 (texts word mem)
    rw [Bytes.ofText, characters, Utf8.encode_lossy text]
    rfl
  · intro before after c ascii
    exact Utf8.lossy_append_ascii ascii before after

/-- The two halves of a character that is broken by a space are shown apart, and an empty word leaves its space. -/
theorem describe_reads_raw_line_of_halves :
    let command := Command.plain [0xe2, 0x82] [[0xac], [], Bytes.ascii "-h"]
    (∀ word ∈ command.words, nul ∉ word) ∧
      [space].intercalate (command.program :: command.args) = [0xe2, 0x82, 0x20, 0xac, 0x20, 0x20, 0x2d, 0x68] ∧
      command.describe = "\uFFFD \uFFFD  -h" := by
  intro command
  have free : ∀ word ∈ command.words, nul ∉ word := by decide
  obtain ⟨whole, -⟩ := describe_reads_raw_line command free
  exact ⟨free, rfl, whole.trans (by decide)⟩

end Command
end Offscreen
