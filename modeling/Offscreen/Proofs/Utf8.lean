import Offscreen.Text.Utf8
import Mathlib.Tactic.SplitIfs

/-!
# Reading UTF-8

A byte below 0x80 is read as itself in every state, since no character waits for it. So what stands before
such a byte and what stands after it are read apart (`pieces_append_ascii`), and what consists of such
bytes is text (`isText_of_ascii`). A text that was read is spelt by the bytes that it was read from
(`encode_lossy`). Text that is shown ends in an ASCII character just where its bytes do
(`getLast?_lossy_iff`).
-/

namespace Offscreen.Utf8
set_option autoImplicit false

/-! ## ASCII bytes -/

/-- Between two characters an ASCII byte is a character. -/
theorem run_between_cons {b : UInt8} (h : b < 0x80) (rest : Bytes) :
    State.between.run (b :: rest) = .char (Char.ofNat b.toNat) :: State.between.run rest := by
  simp [State.run, State.step, begin, h]

theorem isText_of_ascii {bytes : Bytes} (h : ∀ b ∈ bytes, b < 0x80) : isText bytes = true := by
  unfold isText pieces
  induction bytes with
  | nil => rfl
  | cons b rest ih =>
    have first := h b List.mem_cons_self
    have later := ih fun c mem => h c (List.mem_cons_of_mem _ mem)
    rw [run_between_cons first, List.all_cons, later]
    rfl

/-! ## Lead bytes -/

/-- The bits that a byte behind a lead byte brings in. -/
def bits (b : UInt8) : Nat := b.toNat - 0x80

/-- A byte that can stand behind a lead byte. -/
structure Tail (b : UInt8) : Prop where
  low : 0x80 ≤ b.toNat
  high : b.toNat ≤ 0xbf

theorem Tail.bits_lt {b : UInt8} (tail : Tail b) : bits b < 64 := by
  have := tail.high
  unfold bits
  omega

theorem bits_le {b c : UInt8} (h : b ≤ c) : bits b ≤ bits c :=
  Nat.sub_le_sub_right (UInt8.le_iff_toNat_le.1 h) 0x80

/-- What a lead byte asks for, by the length of its character. The bounds of the next byte keep the
character from being one that has a shorter spelling, a surrogate, or beyond the last code point. -/
inductive Lead (b : UInt8) (owed : Owed) : Prop where
  | two (lead : 0xc2 ≤ b.toNat ∧ b.toNat ≤ 0xdf) (value : owed.value = b.toNat - 0xc0) (more : owed.more = 0)
  | three (lead : 0xe0 ≤ b.toNat ∧ b.toNat ≤ 0xef) (value : owed.value = b.toNat - 0xe0) (more : owed.more = 1)
      (shortest : 0x20 ≤ owed.value * 64 + bits owed.low)
      (noSurrogate : owed.value * 64 + bits owed.high < 0x360 ∨ 0x37f < owed.value * 64 + bits owed.low)
  | four (lead : 0xf0 ≤ b.toNat ∧ b.toNat ≤ 0xf4) (value : owed.value = b.toNat - 0xf0) (more : owed.more = 2)
      (shortest : 0x10 ≤ owed.value * 64 + bits owed.low)
      (within : owed.value * 64 + bits owed.high < 0x110)

/-- Between these bytes stand only bytes that can stand behind a lead byte. -/
structure Window (low high : UInt8) : Prop where
  low : 0x80 ≤ low
  high : high ≤ 0xbf

theorem Window.tail {low high b : UInt8} (window : Window low high) (ge : low ≤ b) (le : b ≤ high) : Tail b where
  low := UInt8.le_iff_toNat_le.1 (UInt8.le_trans window.low ge)
  high := UInt8.le_iff_toNat_le.1 (UInt8.le_trans le window.high)

/-- All bytes that can stand behind a lead byte. -/
theorem window_tails : Window 0x80 0xbf := ⟨UInt8.le_refl _, UInt8.le_refl _⟩

theorem lead_of_ofLead? {b : UInt8} {owed : Owed} (h : Owed.ofLead? b = some owed) :
    Lead b owed ∧ Window owed.low owed.high := by
  have first : bits 0x80 = 0 := rfl
  have last : bits 0xbf = 63 := rfl
  unfold Owed.ofLead? at h
  simp only [UInt8.lt_iff_toNat_lt, UInt8.le_iff_toNat_le, ← UInt8.toNat_inj, UInt8.reduceToNat] at h
  split_ifs at h <;> obtain rfl := Option.some.inj h
  · exact ⟨.two (by omega) rfl rfl, UInt8.le_refl _, UInt8.le_refl _⟩
  · exact ⟨.three (by omega) (by dsimp only; omega) rfl (by decide) (by decide), by decide, UInt8.le_refl _⟩
  · exact ⟨.three (by omega) (by dsimp only; omega) rfl (by decide) (by decide), UInt8.le_refl _, by decide⟩
  · exact ⟨.three (by omega) rfl rfl (by dsimp only; omega) (by dsimp only; omega), UInt8.le_refl _,
      UInt8.le_refl _⟩
  · exact ⟨.four (by omega) (by dsimp only; omega) rfl (by decide) (by decide), by decide, UInt8.le_refl _⟩
  · exact ⟨.four (by omega) rfl rfl (by dsimp only; omega) (by dsimp only; omega), UInt8.le_refl _,
      UInt8.le_refl _⟩
  · exact ⟨.four (by omega) (by dsimp only; omega) rfl (by decide) (by decide), UInt8.le_refl _, by decide⟩

/-! ## Reading on after an ASCII byte -/

/-- No character that has begun waits for an ASCII byte. -/
def State.Closed : State → Prop
  | .between => True
  | .inside owed _ => Window owed.low owed.high

theorem closed_between : State.between.Closed := trivial

theorem closed_begin (b : UInt8) : (begin b).2.Closed := by
  unfold begin
  split
  · trivial
  · split
    · trivial
    · rename_i owed lead
      exact (lead_of_ofLead? lead).2

theorem State.Closed.step {state : State} (h : state.Closed) (b : UInt8) : (state.step b).2.Closed := by
  cases state with
  | between => exact closed_begin b
  | inside owed seen =>
    simp only [State.step]
    split
    · split
      · trivial
      · exact window_tails
    · exact closed_begin b

/-- An ASCII byte ends whatever has begun and is read as itself. -/
theorem State.Closed.run_ascii {state : State} (h : state.Closed) {b : UInt8} (ascii : b < 0x80) (rest : Bytes) :
    state.run (b :: rest) = state.finish ++ .char (Char.ofNat b.toNat) :: State.between.run rest := by
  cases state with
  | between => exact run_between_cons ascii rest
  | inside owed seen =>
    have low : 0x80 ≤ owed.low := h.low
    have apart : ¬(owed.low ≤ b ∧ b ≤ owed.high) := fun ⟨le, _⟩ =>
      absurd (UInt8.le_trans low le) (UInt8.not_le.2 ascii)
    simp [State.run, State.step, apart, begin, ascii, State.finish]

theorem State.Closed.run_append_ascii {state : State} (h : state.Closed) {b : UInt8} (ascii : b < 0x80)
    (before after : Bytes) :
    state.run (before ++ b :: after) =
      state.run before ++ .char (Char.ofNat b.toNat) :: State.between.run after := by
  induction before generalizing state with
  | nil => exact h.run_ascii ascii after
  | cons c rest ih =>
    have later := ih (h.step c)
    simp only [List.cons_append, State.run, later, List.append_assoc]

section

variable {b : UInt8} (ascii : b < 0x80) (before after : Bytes)
include ascii

/-- What stands before an ASCII byte is read apart from what stands after it. -/
theorem pieces_append_ascii :
    pieces (before ++ b :: after) = pieces before ++ .char (Char.ofNat b.toNat) :: pieces after :=
  closed_between.run_append_ascii ascii before after

theorem lossy_append_ascii :
    lossy (before ++ b :: after) = lossy before ++ Char.ofNat b.toNat :: lossy after := by
  rw [lossy, pieces_append_ascii ascii, List.map_append]
  rfl

theorem isText_append_ascii :
    isText (before ++ b :: after) = true ↔ isText before = true ∧ isText after = true := by
  simp [isText, pieces_append_ascii ascii, Piece.char?]

end

theorem isText_append_of_ascii {before after : Bytes} (text : isText before = true)
    (ascii : ∀ b ∈ after, b < 0x80) : isText (before ++ after) = true := by
  cases after with
  | nil => rwa [List.append_nil]
  | cons b rest =>
    have later := isText_of_ascii fun c mem => ascii c (List.mem_cons_of_mem _ mem)
    exact (isText_append_ascii (ascii b List.mem_cons_self) before rest).2 ⟨text, later⟩

/-! ## Spelling characters -/

theorem toNat_ofNat_of_valid {n : Nat} (valid : n.isValidChar) : (Char.ofNat n).toNat = n := by
  rw [Char.ofNat, dif_pos valid]
  rfl

theorem toNat_ofNat_of_ascii {b : UInt8} (ascii : b < 0x80) : (Char.ofNat b.toNat).toNat = b.toNat := by
  have small : b.toNat < 0x80 := UInt8.lt_iff_toNat_lt.1 ascii
  exact toNat_ofNat_of_valid (.inl (by omega))

theorem ofNat_eq_byte {n : Nat} {b : UInt8} (h : n = b.toNat) : UInt8.ofNat n = b := by
  rw [h, UInt8.ofNat_toNat]

theorem utf8EncodeChar_one {b : UInt8} (ascii : b < 0x80) : String.utf8EncodeChar (Char.ofNat b.toNat) = [b] := by
  have small : b.toNat < 0x80 := UInt8.lt_iff_toNat_lt.1 ascii
  have code : (Char.ofNat b.toNat).val.toNat = b.toNat := toNat_ofNat_of_ascii ascii
  rw [String.utf8EncodeChar, code, if_pos (by omega), UInt8.ofNat_toNat]

theorem utf8EncodeChar_two {n : Nat} {a b : UInt8} (tail : Tail b) (value : n = (a.toNat - 0xc0) * 64 + bits b)
    (lead : 0xc2 ≤ a.toNat ∧ a.toNat ≤ 0xdf) : String.utf8EncodeChar (Char.ofNat n) = [a, b] := by
  have := tail.low
  have := tail.high
  unfold bits at value
  have valid : n.isValidChar := .inl (by omega)
  have code : (Char.ofNat n).val.toNat = n := toNat_ofNat_of_valid valid
  rw [String.utf8EncodeChar, code, if_neg (by omega), if_pos (by omega)]
  simp only [List.cons.injEq, and_true]
  exact ⟨ofNat_eq_byte (by omega), ofNat_eq_byte (by omega)⟩

theorem utf8EncodeChar_three {n : Nat} {a b c : UInt8} (first : Tail b) (second : Tail c)
    (value : n = ((a.toNat - 0xe0) * 64 + bits b) * 64 + bits c) (lead : 0xe0 ≤ a.toNat ∧ a.toNat ≤ 0xef)
    (least : 0x800 ≤ n) (noSurrogate : n < 0xd800 ∨ 0xdfff < n) : String.utf8EncodeChar (Char.ofNat n) = [a, b, c] := by
  have := first.low
  have := first.high
  have := second.low
  have := second.high
  unfold bits at value
  have valid : n.isValidChar := by
    unfold Nat.isValidChar
    omega
  have code : (Char.ofNat n).val.toNat = n := toNat_ofNat_of_valid valid
  rw [String.utf8EncodeChar, code, if_neg (by omega), if_neg (by omega), if_pos (by omega)]
  simp only [List.cons.injEq, and_true]
  exact ⟨ofNat_eq_byte (by omega), ofNat_eq_byte (by omega), ofNat_eq_byte (by omega)⟩

theorem utf8EncodeChar_four {n : Nat} {a b c d : UInt8} (first : Tail b) (second : Tail c) (third : Tail d)
    (value : n = (((a.toNat - 0xf0) * 64 + bits b) * 64 + bits c) * 64 + bits d)
    (lead : 0xf0 ≤ a.toNat ∧ a.toNat ≤ 0xf4) (least : 0x10000 ≤ n) (greatest : n < 0x110000) :
    String.utf8EncodeChar (Char.ofNat n) = [a, b, c, d] := by
  have := first.low
  have := first.high
  have := second.low
  have := second.high
  have := third.low
  have := third.high
  unfold bits at value
  have valid : n.isValidChar := .inr ⟨by omega, greatest⟩
  have code : (Char.ofNat n).val.toNat = n := toNat_ofNat_of_valid valid
  rw [String.utf8EncodeChar, code, if_neg (by omega), if_neg (by omega), if_neg (by omega)]
  simp only [List.cons.injEq, and_true]
  exact ⟨ofNat_eq_byte (by omega), ofNat_eq_byte (by omega), ofNat_eq_byte (by omega),
    ofNat_eq_byte (by omega)⟩

/-- Whatever bytes an owed character is given, it is spelt by them and by those seen before. -/
def Exact (value : Nat) (low high : UInt8) (seen : Bytes) : Nat → Prop
  | 0 => ∀ b, low ≤ b → b ≤ high → String.utf8EncodeChar (Char.ofNat (value * 64 + bits b)) = seen ++ [b]
  | more + 1 => ∀ b, low ≤ b → b ≤ high → Exact (value * 64 + bits b) 0x80 0xbf (seen ++ [b]) more

theorem exact_of_ofLead? {a : UInt8} {owed : Owed} (h : Owed.ofLead? a = some owed) :
    Exact owed.value owed.low owed.high [a] owed.more := by
  obtain ⟨lead, window⟩ := lead_of_ofLead? h
  cases lead with
  | two lead value more =>
    rw [more, value]
    intro b ge le
    exact utf8EncodeChar_two (window.tail ge le) rfl lead
  | three lead value more shortest noSurrogate =>
    rw [more, value]
    rw [value] at shortest noSurrogate
    intro b ge le c ge' le'
    have := bits_le ge
    have := bits_le le
    have second := window_tails.tail ge' le'
    have := second.bits_lt
    exact utf8EncodeChar_three (window.tail ge le) second rfl lead (by omega) (by omega)
  | four lead value more shortest within =>
    rw [more, value]
    rw [value] at shortest within
    intro b ge le c ge' le' d ge'' le''
    have := bits_le ge
    have := bits_le le
    have second := window_tails.tail ge' le'
    have third := window_tails.tail ge'' le''
    have := second.bits_lt
    have := third.bits_lt
    exact utf8EncodeChar_four (window.tail ge le) second third rfl lead (by omega) (by omega)

/-! ## Giving bytes back -/

/-- The bytes of a character that has begun. -/
def State.seen : State → Bytes
  | .between => []
  | .inside _ seen => seen

/-- What a state waits for is spelt by the bytes that it was read from. -/
def State.Faithful : State → Prop
  | .between => True
  | .inside owed seen => Exact owed.value owed.low owed.high seen owed.more

theorem faithful_between : State.between.Faithful := trivial

theorem faithful_begin (b : UInt8) : (begin b).2.Faithful := by
  unfold begin
  split
  · trivial
  · split
    · trivial
    · exact exact_of_ofLead? ‹_›

/-- What a state waits for is spelt by what was seen, also behind something ill-formed. -/
theorem State.Faithful.step {state : State} (h : state.Faithful) (b : UInt8) : (state.step b).2.Faithful := by
  cases state with
  | between => exact faithful_begin b
  | inside owed seen =>
    obtain ⟨value, low, high, more⟩ := owed
    simp only [State.step]
    by_cases fits : low ≤ b ∧ b ≤ high
    · rw [if_pos fits]
      cases more with
      | zero => trivial
      | succ more => exact h b fits.1 fits.2
    · rw [if_neg fits]
      exact faithful_begin b

/-- What stands first is read apart from what follows, and leaves a state to go on from. -/
theorem State.Faithful.exists_run_append {state : State} (h : state.Faithful) (front : Bytes) :
    ∃ out next, next.Faithful ∧ ∀ rest, state.run (front ++ rest) = out ++ State.run next rest := by
  induction front generalizing state with
  | nil => exact ⟨[], state, h, fun _ => rfl⟩
  | cons b front ih =>
    obtain ⟨out, next, faithful, split⟩ := ih (h.step b)
    refine ⟨(state.step b).1 ++ out, next, faithful, fun rest => ?_⟩
    simp only [List.cons_append, State.run, split, List.append_assoc]

/-- Whether pieces are characters all. -/
def Whole (pieces : List Piece) : Prop := ∀ piece ∈ pieces, ∃ c, piece = .char c

theorem whole_of_isText {bytes : Bytes} (h : isText bytes = true) : Whole (pieces bytes) := by
  intro piece mem
  have held := List.all_eq_true.1 h piece mem
  cases piece with
  | char c => exact ⟨c, rfl⟩
  | illFormed => cases held

theorem Whole.left {before after : List Piece} (h : Whole (before ++ after)) : Whole before :=
  fun piece mem => h piece (List.mem_append_left _ mem)

theorem Whole.right {before after : List Piece} (h : Whole (before ++ after)) : Whole after :=
  fun piece mem => h piece (List.mem_append_right _ mem)

theorem not_whole_illFormed {bytes : Bytes} {rest : List Piece} : ¬Whole (.illFormed bytes :: rest) := by
  intro h
  obtain ⟨c, same⟩ := h _ List.mem_cons_self
  cases same

/-- The bytes that spell pieces that are characters. -/
def spelling (pieces : List Piece) : Bytes := encode (pieces.map Piece.shown)

theorem spelling_append (before after : List Piece) :
    spelling (before ++ after) = spelling before ++ spelling after := by
  simp [spelling, encode]

theorem spelling_char (c : Char) : spelling [.char c] = String.utf8EncodeChar c := by
  simp [spelling, encode, Piece.shown]

/-- A byte that begins something is spelt at once or is waiting. -/
theorem begin_spelt {b : UInt8} (whole : Whole (begin b).1) :
    spelling (begin b).1 ++ (begin b).2.seen = [b] := by
  unfold begin at *
  by_cases ascii : b < 0x80
  · rw [if_pos ascii, spelling_char, utf8EncodeChar_one ascii]
    rfl
  · rw [if_neg ascii] at *
    cases lead : Owed.ofLead? b with
    | none =>
      rw [lead] at whole
      exact absurd whole not_whole_illFormed
    | some owed => rfl

/-- Each byte that is read is spelt at once or is waiting, unless something ill-formed is met. -/
theorem State.Faithful.spelt {state : State} (h : state.Faithful) {b : UInt8} (whole : Whole (state.step b).1) :
    spelling (state.step b).1 ++ (state.step b).2.seen = state.seen ++ [b] := by
  cases state with
  | between => exact begin_spelt whole
  | inside owed seen =>
    obtain ⟨value, low, high, more⟩ := owed
    simp only [State.step] at *
    by_cases fits : low ≤ b ∧ b ≤ high
    · rw [if_pos fits]
      cases more with
      | zero =>
        rw [spelling_char]
        exact (List.append_nil _).trans (h b fits.1 fits.2)
      | succ more => rfl
    · rw [if_neg fits] at whole
      exact absurd whole not_whole_illFormed

theorem State.Faithful.run {state : State} (h : state.Faithful) {bytes : Bytes}
    (whole : Whole (state.run bytes)) : spelling (state.run bytes) = state.seen ++ bytes := by
  induction bytes generalizing state with
  | nil =>
    cases state with
    | between => rfl
    | inside owed seen => exact absurd whole not_whole_illFormed
  | cons b rest ih =>
    calc spelling (state.run (b :: rest))
        = spelling (state.step b).1 ++ spelling ((state.step b).2.run rest) := spelling_append _ _
      _ = spelling (state.step b).1 ++ ((state.step b).2.seen ++ rest) := by rw [ih (h.step b) whole.right]
      _ = state.seen ++ b :: rest := by rw [← List.append_assoc, h.spelt whole.left, List.append_assoc]; rfl

/-- A text that was read from well-formed bytes is spelt by them. -/
theorem encode_lossy {bytes : Bytes} (h : isText bytes = true) : encode (lossy bytes) = bytes :=
  faithful_between.run (whole_of_isText h)

/-! ## The last character -/

/-- A character whose last byte is above ASCII is above ASCII itself. -/
theorem le_toNat_of_utf8EncodeChar {c : Char} {seen : Bytes} {b : UInt8} (spelt : String.utf8EncodeChar c = seen ++ [b])
    (high : ¬b < 0x80) : 0x80 ≤ c.toNat := by
  apply Nat.le_of_not_lt
  intro small
  apply high
  have single : c.val.toNat ≤ 127 := Nat.le_of_lt_succ small
  rw [String.utf8EncodeChar, if_pos single] at spelt
  have spelt : [] ++ [UInt8.ofNat c.toNat] = seen ++ [b] := spelt
  have same : b = UInt8.ofNat c.toNat := by
    obtain ⟨-, last⟩ := List.append_inj' spelt rfl
    exact (List.singleton_inj.1 last).symm
  have value : (UInt8.ofNat c.toNat).toNat = c.toNat := UInt8.toNat_ofNat_of_lt (Nat.lt_trans small (by decide))
  rw [same, UInt8.lt_iff_toNat_lt, value]
  exact small

/-- Whether the last character that is shown for some pieces lies above ASCII. -/
def EndsHigh (pieces : List Piece) : Prop := ∃ front last, pieces = front ++ [last] ∧ 0x80 ≤ last.shown.toNat

theorem endsHigh_illFormed (bytes : Bytes) : EndsHigh [.illFormed bytes] :=
  ⟨[], _, rfl, (by decide : 0x80 ≤ '\uFFFD'.toNat)⟩

theorem EndsHigh.append {pieces : List Piece} (h : EndsHigh pieces) (front : List Piece) :
    EndsHigh (front ++ pieces) := by
  obtain ⟨front', last, rfl, high⟩ := h
  exact ⟨front ++ front', last, (List.append_assoc ..).symm, high⟩

theorem endsHigh_begin {b : UInt8} (high : ¬b < 0x80) : EndsHigh ((begin b).1 ++ (begin b).2.finish) := by
  rw [begin, if_neg high]
  split
  · exact endsHigh_illFormed _
  · exact endsHigh_illFormed _

/-- Whatever has begun, a byte above ASCII ends a character above ASCII or something ill-formed. -/
theorem State.Faithful.endsHigh {state : State} (h : state.Faithful) {b : UInt8} (high : ¬b < 0x80) :
    EndsHigh (state.run [b]) := by
  change EndsHigh ((state.step b).1 ++ (state.step b).2.finish)
  cases state with
  | between => exact endsHigh_begin high
  | inside owed seen =>
    obtain ⟨value, low, high', more⟩ := owed
    simp only [State.step]
    by_cases fits : low ≤ b ∧ b ≤ high'
    · rw [if_pos fits]
      cases more with
      | zero => exact ⟨[], _, rfl, le_toNat_of_utf8EncodeChar (h b fits.1 fits.2) high⟩
      | succ more => exact endsHigh_illFormed _
    · rw [if_neg fits]
      exact (endsHigh_begin high).append [_]

/-- Bytes that end above ASCII are shown as a text that does. -/
theorem exists_lossy_append {b : UInt8} (high : ¬b < 0x80) (front : Bytes) :
    ∃ before last, lossy (front ++ [b]) = before ++ [last] ∧ 0x80 ≤ last.toNat := by
  obtain ⟨out, next, faithful, split⟩ := faithful_between.exists_run_append front
  obtain ⟨before, last, ends, above⟩ := (faithful.endsHigh high).append out
  refine ⟨before.map Piece.shown, last.shown, ?_, above⟩
  rw [lossy, pieces, split, ends, List.map_append]
  rfl

/-- The text that is shown for bytes ends in an ASCII character just where the bytes do. -/
theorem getLast?_lossy_iff {a : UInt8} (ascii : a < 0x80) {bytes : Bytes} :
    (lossy bytes).getLast? = some (Char.ofNat a.toNat) ↔ bytes.getLast? = some a := by
  rcases List.eq_nil_or_concat bytes with rfl | ⟨front, b, rfl⟩
  · exact ⟨nofun, nofun⟩
  rw [List.concat_eq_append, List.getLast?_concat, Option.some.injEq]
  by_cases low : b < 0x80
  · have shown : lossy (front ++ [b]) = lossy front ++ [Char.ofNat b.toNat] := lossy_append_ascii low front []
    rw [shown, List.getLast?_concat, Option.some.injEq]
    refine ⟨fun same => UInt8.toNat_inj.1 ?_, fun same => same ▸ rfl⟩
    rw [← toNat_ofNat_of_ascii low, ← toNat_ofNat_of_ascii ascii, same]
  · obtain ⟨before, last, shown, above⟩ := exists_lossy_append low front
    rw [shown, List.getLast?_concat, Option.some.injEq]
    constructor
    · intro same
      have small : a.toNat < 0x80 := UInt8.lt_iff_toNat_lt.1 ascii
      rw [same, toNat_ofNat_of_ascii ascii] at above
      omega
    · rintro rfl
      exact absurd ascii low

end Offscreen.Utf8
