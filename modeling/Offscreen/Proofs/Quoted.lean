import Offscreen.Proofs.IllFormed
import Offscreen.Proofs.SearchPath

/-!
# Reading quoted byte strings back

A quoted byte string is read from its first quote to its last one, character by character, and what follows it
is given back (`unquote?_quote`): a backslash tells that a character or a byte is spelt out, and no quote inside
stands without one. So a list of byte strings is read back from its text whatever stands behind it
(`list?_list`). The text about directories that make no search path thereby tells exactly which they were
(`search_path_message_tells_directories`).
-/

namespace Offscreen.Quoted
set_option autoImplicit false

/-! ## The reader -/

/-- The number that a hexadecimal digit stands for, small or capital. -/
def digit? (c : Char) : Option Nat :=
  let n := c.toNat
  if 0x30 ≤ n ∧ n ≤ 0x39 then some (n - 0x30)
  else if 0x41 ≤ n ∧ n ≤ 0x46 then some (n - 0x37)
  else if 0x61 ≤ n ∧ n ≤ 0x66 then some (n - 0x57)
  else none

/-- The bytes that have a letter of their own behind a backslash. -/
def letters : List (Char × UInt8) :=
  [('0', 0x00), ('t', 0x09), ('r', 0x0d), ('n', 0x0a), ('"', 0x22), ('\\', 0x5c)]

/-- Where the reading of a quoted text stands. -/
inductive Place where
  /-- Between two characters. -/
  | plain
  /-- After a backslash. -/
  | escaped
  /-- Where the two digits of a byte follow. -/
  | byte
  /-- After the first digit of a byte. -/
  | half (high : Nat)
  /-- Where the braces around the number of a character follow. -/
  | code
  /-- Inside the braces, with the number that was read so far. -/
  | braced (number : Nat)
  deriving DecidableEq, Repr

/-- Reads one character: the bytes that it completes, and where the reading goes on. -/
def Place.step : Place → Char → Option (Bytes × Place)
  | .plain, c => some (if c = '\\' then ([], .escaped) else (String.utf8EncodeChar c, .plain))
  | .escaped, c =>
    if c = 'x' then some ([], .byte)
    else if c = 'u' then some ([], .code)
    else (letters.lookup c).map fun b => ([b], .plain)
  | .byte, c => (digit? c).map fun high => ([], .half high)
  | .half high, c => (digit? c).map fun low => ([UInt8.ofNat (high * 16 + low)], .plain)
  | .code, c => if c = '{' then some ([], .braced 0) else none
  | .braced number, c =>
    if c = '}' then some (String.utf8EncodeChar (Char.ofNat number), .plain)
    else (digit? c).map fun digit => ([], .braced (number * 16 + digit))

/-- Reads up to the last quote: the bytes of the text, and what follows. -/
def Place.read? : Place → List Char → Option (Bytes × List Char)
  | _, [] => none
  | place, c :: rest =>
    if place = .plain ∧ c = '"' then some ([], rest)
    else (place.step c).bind fun (bytes, next) =>
      (next.read? rest).map fun (later, rest) => (bytes ++ later, rest)

/-- Reads a byte string in quotes. -/
def unquote? : List Char → Option (Bytes × List Char)
  | '"' :: rest => Place.plain.read? rest
  | _ => none

theorem Place.length_lt_of_read? {place : Place} {text rest : List Char} {bytes : Bytes}
    (h : place.read? text = some (bytes, rest)) : rest.length < text.length := by
  induction text generalizing place bytes with
  | nil => cases h
  | cons c text ih =>
    rw [Place.read?] at h
    split at h
    · cases h
      exact Nat.lt_succ_self _
    · obtain ⟨⟨read, next⟩, -, h⟩ := Option.bind_eq_some_iff.1 h
      obtain ⟨⟨later, rest'⟩, read', same⟩ := Option.map_eq_some_iff.1 h
      cases same
      exact Nat.lt_succ_of_lt (ih read')

theorem length_lt_of_unquote? {text rest : List Char} {bytes : Bytes} (h : unquote? text = some (bytes, rest)) :
    rest.length < text.length := by
  unfold unquote? at h
  split at h
  · exact Nat.lt_succ_of_lt (Place.length_lt_of_read? h)
  · cases h

/-- Reads what follows an item of a list, up to the bracket at its end. -/
def items? (text : List Char) : Option (List Bytes × List Char) :=
  match text with
  | ']' :: rest => some ([], rest)
  | ',' :: ' ' :: rest =>
    match _ : unquote? rest with
    | some (item, later) => (items? later).map fun (items, rest) => (item :: items, rest)
    | none => none
  | _ => none
termination_by text.length
decreasing_by
  have := length_lt_of_unquote? ‹unquote? rest = some (item, later)›
  simp only [List.length_cons]
  omega

/-- Reads a list of byte strings in quotes, between brackets. -/
def list? : List Char → Option (List Bytes × List Char)
  | '[' :: ']' :: rest => some ([], rest)
  | '[' :: rest => items? (',' :: ' ' :: rest)
  | _ => none

/-! ## Texts that are read to their end -/

/-- From one place to another a text is read as some bytes, whatever follows it. -/
def Passes (place : Place) (text : List Char) (bytes : Bytes) (next : Place) : Prop :=
  ∀ rest, place.read? (text ++ rest) = (next.read? rest).map fun (later, rest) => (bytes ++ later, rest)

section

variable {place middle next : Place} {text more : List Char} {bytes later : Bytes} {c : Char}

theorem passes_nil (place : Place) : Passes place [] [] place := by
  intro rest
  simp

theorem Passes.append (first : Passes place text bytes middle) (second : Passes middle more later next) :
    Passes place (text ++ more) (bytes ++ later) next := by
  intro rest
  rw [List.append_assoc, first, second, Option.map_map]
  simp [Function.comp_def]

/-- Only a quote between two characters ends the reading. -/
theorem passes_of_step (h : place.step c = some (bytes, next)) (goes : ¬(place = .plain ∧ c = '"')) :
    Passes place [c] bytes next := by
  intro rest
  rw [List.singleton_append, Place.read?, if_neg goes, h]
  rfl

theorem Passes.flatMap {α : Type} {items : List α} {write : α → List Char} {source : α → Bytes}
    (each : ∀ item ∈ items, Passes .plain (write item) (source item) .plain) :
    Passes .plain (items.flatMap write) (items.flatMap source) .plain := by
  induction items with
  | nil => exact passes_nil .plain
  | cons item rest ih =>
    obtain ⟨first, others⟩ := List.forall_mem_cons.1 each
    exact first.append (ih others)

end

/-! ## Escapes -/

theorem passes_backslash : Passes .plain ['\\'] [] .escaped :=
  passes_of_step rfl (by decide)

/-- A byte with a letter of its own is read from its letter. -/
theorem passes_letter {c : Char} {b : UInt8} (h : (c, b) ∈ letters) : Passes .plain ['\\', c] [b] .plain := by
  have step : Place.escaped.step c = some ([b], .plain) := by
    revert h
    simp only [letters, List.mem_cons, Prod.mk.injEq, List.not_mem_nil, or_false]
    rintro (⟨rfl, rfl⟩ | ⟨rfl, rfl⟩ | ⟨rfl, rfl⟩ | ⟨rfl, rfl⟩ | ⟨rfl, rfl⟩ | ⟨rfl, rfl⟩) <;> rfl
  exact passes_backslash.append (passes_of_step step nofun)

theorem digit?_digitChar {n : Nat} (h : n < 16) : digit? n.digitChar = some n := by
  have all : ∀ n < 16, digit? (Nat.digitChar n) = some n := by decide
  exact all n h

theorem digit?_capitalDigit {n : Nat} (h : n < 16) : digit? (capitalDigit n) = some n := by
  have all : ∀ n < 16, digit? (capitalDigit n) = some n := by decide
  exact all n h

/-- An ill-formed byte is read from its two digits. -/
theorem passes_escapeByte (b : UInt8) : Passes .plain (escapeByte b) [b] .plain := by
  have bounded := b.toNat_lt
  have high : Place.byte.step (capitalDigit (b.toNat / 16)) = some ([], .half (b.toNat / 16)) := by
    rw [Place.step, digit?_capitalDigit (by omega)]
    rfl
  have low : (Place.half (b.toNat / 16)).step (capitalDigit (b.toNat % 16)) = some ([b], .plain) := by
    rw [Place.step, digit?_capitalDigit (by omega)]
    simp only [Option.map_some, Nat.div_add_mod', UInt8.ofNat_toNat]
  have marked : Passes .escaped ['x'] [] .byte := passes_of_step rfl nofun
  exact passes_backslash.append (marked.append ((passes_of_step high nofun).append (passes_of_step low nofun)))

/-- A digit inside the braces takes its place behind those before it. -/
theorem passes_digit (number : Nat) {n : Nat} (h : n < 16) :
    Passes (.braced number) [n.digitChar] [] (.braced (number * 16 + n)) := by
  have inside : n.digitChar ≠ '}' := by
    intro brace
    have digit := digit?_digitChar h
    rw [brace] at digit
    cases digit
  apply passes_of_step
  · rw [Place.step, if_neg inside, digit?_digitChar h]
    rfl
  · exact nofun

theorem passes_hex (n : Nat) : Passes (.braced 0) (hex n) [] (.braced n) := by
  -- The last digit stands at the end of the text, so the induction is on the number without it.
  unfold hex
  rw [Nat.toDigits_eq_if (by decide)]
  by_cases last : n < 16
  · rw [if_pos last]
    simpa using passes_digit 0 last
  · rw [if_neg last]
    have digits := (passes_hex (n / 16)).append (passes_digit (n / 16) (Nat.mod_lt n (by decide)))
    rwa [Nat.div_add_mod'] at digits
termination_by n
decreasing_by omega

/-- A character is read from its text. -/
theorem passes_escape (c : Char) : Passes .plain (escape c) (String.utf8EncodeChar c) .plain := by
  unfold escape
  split_ifs with null tab ret line quote backslash plain
  · subst null
    exact passes_letter (by decide)
  · subst tab
    exact passes_letter (by decide)
  · subst ret
    exact passes_letter (by decide)
  · subst line
    exact passes_letter (by decide)
  · subst quote
    exact passes_letter (by decide)
  · subst backslash
    exact passes_letter (by decide)
  · exact passes_of_step (by rw [Place.step, if_neg backslash]) fun ends => quote ends.2
  · have marked : Passes .escaped ['u'] [] .code := passes_of_step rfl nofun
    have opened : Passes .code ['{'] [] (.braced 0) := passes_of_step rfl nofun
    have closed : Passes (.braced c.toNat) ['}'] (String.utf8EncodeChar c) .plain :=
      passes_of_step (by rw [Place.step, if_pos rfl, Char.ofNat_toNat]) nofun
    have front := passes_backslash.append (marked.append opened)
    exact (front.append (passes_hex c.toNat)).append closed

theorem passes_escapePiece (piece : Utf8.Piece) : Passes .plain (escapePiece piece) piece.source .plain := by
  cases piece with
  | char c => exact passes_escape c
  | illFormed bytes =>
    have all := Passes.flatMap fun b (_ : b ∈ bytes) => passes_escapeByte b
    rwa [List.flatMap_singleton'] at all

/-! ## Quoted texts and lists of them -/

/-- A byte string is read back from its quotes. -/
theorem unquote?_quote (bytes : Bytes) (rest : List Char) : unquote? (quote bytes ++ rest) = some (bytes, rest) := by
  have body := Passes.flatMap fun piece (_ : piece ∈ Utf8.pieces bytes) => passes_escapePiece piece
  rw [Utf8.flatMap_source_pieces] at body
  have text : quote bytes ++ rest = '"' :: ((Utf8.pieces bytes).flatMap escapePiece ++ '"' :: rest) := by
    simp [quote]
  have closes : Place.plain.read? ('"' :: rest) = some ([], rest) := rfl
  rw [text, unquote?, body, closes]
  simp

theorem items?_of_unquote? {text later : List Char} {item : Bytes} (h : unquote? text = some (item, later)) :
    items? (',' :: ' ' :: text) = (items? later).map fun (items, rest) => (item :: items, rest) := by
  rw [items?]
  split
  · rename_i item' later' read
    obtain ⟨rfl, rfl⟩ := Prod.mk.inj (Option.some.inj (h.symm.trans read))
    rfl
  · rename_i read
    cases h.symm.trans read

/-- The items of a list are read from their separators, up to the bracket at the end. -/
theorem items?_flatMap (items : List Bytes) (rest : List Char) :
    items? (items.flatMap (fun item => ',' :: ' ' :: quote item) ++ ']' :: rest) = some (items, rest) := by
  induction items with
  | nil =>
    rw [List.flatMap_nil, List.nil_append, items?]
  | cons item more ih =>
    rw [List.flatMap_cons, List.append_assoc, List.cons_append, List.cons_append,
      items?_of_unquote? (unquote?_quote _ _), ih]
    rfl

/-- Each item behind the first one follows a separator. -/
theorem intercalate_quote (item : Bytes) (more : List Bytes) :
    [',', ' '].intercalate ((item :: more).map quote) =
      quote item ++ more.flatMap fun other => ',' :: ' ' :: quote other := by
  induction more generalizing item with
  | nil => simp
  | cons other more ih =>
    rw [List.map_cons, List.intercalate_cons_of_ne_nil (by simp), ih other]
    simp

/-- A list of byte strings is read back from its text. -/
theorem list?_list (items : List Bytes) (rest : List Char) : list? (list items ++ rest) = some (items, rest) := by
  cases items with
  | nil => rfl
  | cons item more =>
    -- The reader takes the first item as if a separator stood in front of it.
    have read := items?_flatMap (item :: more) rest
    rw [list, intercalate_quote]
    simpa [list?, quote] using read

end Offscreen.Quoted

/-! ## The text about a search path -/

namespace Offscreen.Fault

/-- What stands before the directories in the text about a search path. -/
def searchPathOpening : String := "Cannot build library search path from "

/-- The directories that a text about a search path tells of. -/
def directories? (message : String) : Option (List Bytes) :=
  (Quoted.list? (message.toList.drop searchPathOpening.toList.length)).map (·.1)

theorem directories?_message (directories : List Bytes) :
    directories? (invalidSearchPath directories).message = some directories := by
  have text : (invalidSearchPath directories).message =
      searchPathOpening ++ String.ofList (Quoted.list directories) ++ ": " ++ separatorWording := rfl
  rw [directories?, text]
  simp only [String.toList_append, String.toList_ofList, List.append_assoc, List.drop_left, Quoted.list?_list]
  rfl

/-- **The text about a search path tells the directories.** Whatever bytes the directories hold, they are read back
from the text of the fault, so that two faults with one text are about the same directories. Directories that
make no search path are therefore all told, byte by byte. -/
theorem search_path_message_tells_directories :
    (∀ dirs, directories? (invalidSearchPath dirs).message = some dirs) ∧
    (∀ dirs others, (invalidSearchPath dirs).message = (invalidSearchPath others).message → dirs = others) ∧
    ∀ dirs fault, SearchPath.ofDirectories dirs = .error fault → directories? fault.message = some dirs := by
  refine ⟨directories?_message, ?_, ?_⟩
  · intro dirs others same
    have read := directories?_message dirs
    rw [same, directories?_message] at read
    exact (Option.some.inj read).symm
  · intro dirs fault failed
    obtain ⟨-, rfl⟩ := SearchPath.ofDirectories_eq_error_iff.1 failed
    exact directories?_message dirs

/-- A path with the text of an escape is told from the byte that this escape spells out, and a path with the text of
a separator from two paths. A path with a colon is named together with the others. -/
theorem search_path_message_tells_directories_of_lookalikes :
    (invalidSearchPath [[0xff]]).message ≠ (invalidSearchPath [Bytes.ascii "\\xFF"]).message ∧
    (invalidSearchPath [Bytes.ascii "a\", \"b"]).message ≠
      (invalidSearchPath [Bytes.ascii "a", Bytes.ascii "b"]).message ∧
    SearchPath.ofDirectories [[0x3a, 0x80], []] = .error (.invalidSearchPath [[0x3a, 0x80], []]) ∧
    directories? (invalidSearchPath [[0x3a, 0x80], []]).message = some [[0x3a, 0x80], []] := by
  obtain ⟨-, tells, names⟩ := search_path_message_tells_directories
  have failed : SearchPath.ofDirectories [[0x3a, 0x80], []] = .error (.invalidSearchPath [[0x3a, 0x80], []]) :=
    SearchPath.ofDirectories_eq_error_iff.2 ⟨⟨_, List.mem_cons_self, by decide⟩, rfl⟩
  exact ⟨fun same => absurd (tells _ _ same) (by decide), fun same => absurd (tells _ _ same) (by decide), failed,
    names _ _ failed⟩

end Offscreen.Fault
