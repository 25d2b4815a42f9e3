import Offscreen.Proofs.Utf8

/-!
# Maximal ill-formed parts

Where no character stands, an ill-formed part reaches as far as a character could begin, or else over one
byte (`IllFormed`). The text that is shown for bytes has their characters, and U+FFFD for each of these
parts; no other text has (`replaced_iff`). This says what is shown without the states of the reading.
-/

namespace Offscreen.Utf8
set_option autoImplicit false

/-- Bytes that a character begins with. -/
def Begins (part : Bytes) : Prop := ∃ c, part <+: String.utf8EncodeChar c

/-- A maximal ill-formed part in front of the rest. -/
structure IllFormed (part rest : Bytes) : Prop where
  /-- No character stands here. -/
  unconvertible : ∀ c, ¬String.utf8EncodeChar c <+: part ++ rest
  nonempty : part ≠ []
  /-- A character could begin like this, or it is one byte. -/
  begun : Begins part ∨ part.length = 1
  /-- With more of the rest no character could begin. -/
  maximal : ∀ longer, longer <+: part ++ rest → part.length < longer.length → ¬Begins longer

/-- A text for bytes, with U+FFFD in place of each maximal ill-formed part. -/
inductive Replaced : Bytes → List Char → Prop
  | nil : Replaced [] []
  | char {rest : Bytes} {text : List Char} (c : Char) (later : Replaced rest text) :
    Replaced (String.utf8EncodeChar c ++ rest) (c :: text)
  | illFormed {part rest : Bytes} {text : List Char} (ill : IllFormed part rest) (later : Replaced rest text) :
    Replaced (part ++ rest) ('\uFFFD' :: text)

theorem Begins.of_append {part later : Bytes} (h : Begins (part ++ later)) : Begins part := by
  obtain ⟨c, whole⟩ := h
  exact ⟨c, (List.prefix_append part later).trans whole⟩

/-- A part is ill-formed if no character stands at its beginning and none goes on with the byte behind it. -/
theorem illFormed_of_ends {part rest : Bytes} (nonempty : part ≠ []) (begun : Begins part ∨ part.length = 1)
    (short : ∀ c, ¬String.utf8EncodeChar c <+: part) (ends : ∀ b later, rest = b :: later → ¬Begins (part ++ [b])) :
    IllFormed part rest := by
  have maximal : ∀ longer, longer <+: part ++ rest → part.length < longer.length → ¬Begins longer := by
    rintro longer within long begins
    obtain ⟨more, rfl⟩ := List.prefix_of_prefix_length_le (List.prefix_append part rest) within (Nat.le_of_lt long)
    cases more with
    | nil => simp at long
    | cons b later =>
      obtain ⟨behind, whole⟩ := (List.prefix_append_right_inj part).1 within
      rw [← List.singleton_append, ← List.append_assoc] at begins
      exact ends b (later ++ behind) whole.symm begins.of_append
  refine ⟨?_, nonempty, begun, maximal⟩
  intro c within
  by_cases long : part.length < (String.utf8EncodeChar c).length
  · exact maximal _ within long ⟨c, List.prefix_rfl⟩
  · exact short c (List.prefix_of_prefix_length_le within (List.prefix_append part rest) (Nat.le_of_not_lt long))

/-! ## The bytes of characters -/

theorem toNat_lt_last (c : Char) : c.toNat < 0x110000 := by
  rcases c.valid with low | ⟨-, high⟩
  · exact Nat.lt_trans low (by decide)
  · exact high

/-- Bytes begin with one character at most. -/
theorem utf8EncodeChar_append_inj {c d : Char} {rest rest' : Bytes}
    (h : String.utf8EncodeChar c ++ rest = String.utf8EncodeChar d ++ rest') : c = d ∧ rest = rest' := by
  have read : ∀ (e : Char) (behind : Bytes),
      (String.utf8EncodeChar e ++ behind).toByteArray.utf8DecodeChar? 0 = some e := by
    intro e behind
    rw [List.toByteArray_append]
    exact ByteArray.utf8DecodeChar?_utf8EncodeChar_append
  have same : c = d := by
    apply Option.some.inj
    rw [← read c rest, ← read d rest', h]
  subst same
  exact ⟨rfl, List.append_cancel_left h⟩

/-! ## What may follow a lead byte -/

/-- Whether bytes are what a character asks for that has begun. -/
def Pays (low high : UInt8) : Nat → Bytes → Prop
  | 0, bytes => ∃ b, low ≤ b ∧ b ≤ high ∧ bytes = [b]
  | more + 1, bytes => ∃ b rest, low ≤ b ∧ b ≤ high ∧ bytes = b :: rest ∧ Pays 0x80 0xbf more rest

theorem Pays.exists_cons {low high : UInt8} {more : Nat} {bytes : Bytes} (h : Pays low high more bytes) :
    ∃ b rest, low ≤ b ∧ b ≤ high ∧ bytes = b :: rest := by
  cases more with
  | zero =>
    obtain ⟨b, ge, le, rfl⟩ := h
    exact ⟨b, [], ge, le, rfl⟩
  | succ more =>
    obtain ⟨b, rest, ge, le, rfl, -⟩ := h
    exact ⟨b, rest, ge, le, rfl⟩

theorem window_le : (0x80 : UInt8) ≤ 0xbf := by decide

theorem exists_pays {low high : UInt8} (possible : low ≤ high) (more : Nat) : ∃ bytes, Pays low high more bytes := by
  induction more generalizing low high with
  | zero => exact ⟨[low], low, UInt8.le_refl low, possible, rfl⟩
  | succ more ih =>
    obtain ⟨rest, paid⟩ := ih window_le
    exact ⟨low :: rest, low, rest, UInt8.le_refl low, possible, rfl, paid⟩

/-- Whatever pays completes a character. -/
theorem Exact.exists_char {value more : Nat} {low high : UInt8} {seen bytes : Bytes}
    (h : Exact value low high seen more) (paid : Pays low high more bytes) :
    ∃ c, String.utf8EncodeChar c = seen ++ bytes := by
  induction more generalizing value low high seen bytes with
  | zero =>
    obtain ⟨b, ge, le, rfl⟩ := paid
    exact ⟨_, h b ge le⟩
  | succ more ih =>
    obtain ⟨b, rest, ge, le, rfl, later⟩ := paid
    obtain ⟨c, spelt⟩ := ih (h b ge le) later
    exact ⟨c, by rw [spelt, List.append_assoc]; rfl⟩

/-- A lead byte and a byte behind it that a character can begin with, by how many bytes follow them. -/
inductive Leads (b x : UInt8) : Nat → Prop
  | two (lead : 0xc2 ≤ b.toNat ∧ b.toNat ≤ 0xdf) : Leads b x 0
  | three (lead : 0xe0 ≤ b.toNat ∧ b.toNat ≤ 0xef) (shortest : 0x20 ≤ (b.toNat - 0xe0) * 64 + bits x)
      (noSurrogate : (b.toNat - 0xe0) * 64 + bits x < 0x360 ∨ 0x37f < (b.toNat - 0xe0) * 64 + bits x) :
    Leads b x 1
  | four (lead : 0xf0 ≤ b.toNat ∧ b.toNat ≤ 0xf4) (shortest : 0x10 ≤ (b.toNat - 0xf0) * 64 + bits x)
      (within : (b.toNat - 0xf0) * 64 + bits x < 0x110) :
    Leads b x 2

/-- The bounds of a lead byte keep out no character. -/
theorem Leads.exists_owed {b x : UInt8} {more : Nat} (h : Leads b x more) (tail : Tail x) :
    ∃ owed, Owed.ofLead? b = some owed ∧ owed.low ≤ x ∧ x ≤ owed.high ∧ owed.more = more := by
  have low := tail.low
  have high := tail.high
  unfold Owed.ofLead?
  simp only [UInt8.lt_iff_toNat_lt, UInt8.le_iff_toNat_le, ← UInt8.toNat_inj, UInt8.reduceToNat]
  cases h with
  | two lead =>
    rw [if_neg (by omega), if_pos (by omega)]
    exact ⟨_, rfl, low, high, rfl⟩
  | three lead shortest noSurrogate =>
    unfold bits at shortest noSurrogate
    rw [if_neg (by omega), if_neg (by omega)]
    by_cases least : b.toNat = 0xe0
    · rw [if_pos least]
      exact ⟨_, rfl, (by omega : 0xa0 ≤ x.toNat), high, rfl⟩
    by_cases beforeSurrogates : b.toNat = 0xed
    · rw [if_neg least, if_pos beforeSurrogates]
      exact ⟨_, rfl, low, (by omega : x.toNat ≤ 0x9f), rfl⟩
    · rw [if_neg least, if_neg beforeSurrogates, if_pos lead.2]
      exact ⟨_, rfl, low, high, rfl⟩
  | four lead shortest within =>
    unfold bits at shortest within
    rw [if_neg (by omega), if_neg (by omega), if_neg (by omega), if_neg (by omega), if_neg (by omega)]
    by_cases least : b.toNat = 0xf0
    · rw [if_pos least]
      exact ⟨_, rfl, (by omega : 0x90 ≤ x.toNat), high, rfl⟩
    by_cases inner : b.toNat ≤ 0xf3
    · rw [if_neg least, if_pos inner]
      exact ⟨_, rfl, low, high, rfl⟩
    · rw [if_neg least, if_neg inner, if_pos (by omega)]
      exact ⟨_, rfl, low, (by omega : x.toNat ≤ 0x8f), rfl⟩

theorem tail_of_ofNat {n : Nat} (h : n < 64) : Tail (UInt8.ofNat (n + 128)) := by
  have value := UInt8.toNat_ofNat_of_lt' (by omega : n + 128 < 256)
  constructor
  · rw [value]
    exact Nat.le_add_left _ _
  · rw [value]
    exact Nat.add_le_add_right (Nat.le_of_lt_succ h) 128

theorem bits_ofNat {n : Nat} (h : n < 64) : bits (UInt8.ofNat (n + 128)) = n := by
  have value := UInt8.toNat_ofNat_of_lt' (by omega : n + 128 < 256)
  unfold bits
  omega

/-- Behind its first byte a character has what that byte asks for. -/
theorem pays_of_utf8EncodeChar {c : Char} {b : UInt8} {rest : Bytes} (spelt : String.utf8EncodeChar c = b :: rest)
    (high : ¬b < 0x80) : ∃ owed, Owed.ofLead? b = some owed ∧ Pays owed.low owed.high owed.more rest := by
  have greatest : c.val.toNat < 0x110000 := toNat_lt_last c
  have noSurrogate : c.val.toNat < 0xd800 ∨ 0xdfff < c.val.toNat := c.valid.imp id And.left
  unfold String.utf8EncodeChar at spelt
  dsimp only at spelt
  generalize c.val.toNat = n at greatest noSurrogate spelt
  by_cases one : n ≤ 127
  · rw [if_pos one] at spelt
    obtain ⟨rfl, -⟩ := List.cons.inj spelt
    have low : (UInt8.ofNat n).toNat < 0x80 := by
      rw [UInt8.toNat_ofNat_of_lt' (by omega : n < 256)]
      omega
    exact absurd (UInt8.lt_iff_toNat_lt.2 low) high
  by_cases two : n ≤ 2047
  · rw [if_neg one, if_pos two] at spelt
    obtain ⟨rfl, rfl⟩ := List.cons.inj spelt
    have lead := UInt8.toNat_ofNat_of_lt' (by omega : n / 64 % 32 + 192 < 256)
    have tail := tail_of_ofNat (by omega : n % 64 < 64)
    have leads : Leads (.ofNat (n / 64 % 32 + 192)) (.ofNat (n % 64 + 128)) 0 := .two (by omega)
    obtain ⟨owed, found, ge, le, more⟩ := leads.exists_owed tail
    exact ⟨owed, found, more ▸ ⟨_, ge, le, rfl⟩⟩
  by_cases three : n ≤ 65535
  · rw [if_neg one, if_neg two, if_pos three] at spelt
    obtain ⟨rfl, rfl⟩ := List.cons.inj spelt
    have lead := UInt8.toNat_ofNat_of_lt' (by omega : n / 4096 % 16 + 224 < 256)
    have tail := tail_of_ofNat (by omega : n / 64 % 64 < 64)
    have last := tail_of_ofNat (by omega : n % 64 < 64)
    have value := bits_ofNat (by omega : n / 64 % 64 < 64)
    have leads : Leads (.ofNat (n / 4096 % 16 + 224)) (.ofNat (n / 64 % 64 + 128)) 1 :=
      .three (by omega) (by omega) (by omega)
    obtain ⟨owed, found, ge, le, more⟩ := leads.exists_owed tail
    exact ⟨owed, found, more ▸ ⟨_, _, ge, le, rfl, _, last.low, last.high, rfl⟩⟩
  · rw [if_neg one, if_neg two, if_neg three] at spelt
    obtain ⟨rfl, rfl⟩ := List.cons.inj spelt
    have lead := UInt8.toNat_ofNat_of_lt' (by omega : n / 262144 % 8 + 240 < 256)
    have tail := tail_of_ofNat (by omega : n / 4096 % 64 < 64)
    have third := tail_of_ofNat (by omega : n / 64 % 64 < 64)
    have last := tail_of_ofNat (by omega : n % 64 < 64)
    have value := bits_ofNat (by omega : n / 4096 % 64 < 64)
    have leads : Leads (.ofNat (n / 262144 % 8 + 240)) (.ofNat (n / 4096 % 64 + 128)) 2 :=
      .four (by omega) (by omega) (by omega)
    obtain ⟨owed, found, ge, le, more⟩ := leads.exists_owed tail
    exact ⟨owed, found, more ▸ ⟨_, _, ge, le, rfl, _, _, third.low, third.high, rfl, _, last.low, last.high, rfl⟩⟩

/-! ## Characters that have begun -/

/-- Bytes with which a character has begun and not ended, and what it asks for. -/
structure Begun (owed : Owed) (seen : Bytes) : Prop where
  /-- What pays completes a character. -/
  exact : Exact owed.value owed.low owed.high seen owed.more
  possible : owed.low ≤ owed.high
  /-- What completes a character pays. -/
  pays : ∀ c rest, String.utf8EncodeChar c = seen ++ rest → Pays owed.low owed.high owed.more rest
  short : ∀ c, ¬String.utf8EncodeChar c <+: seen
  nonempty : seen ≠ []

variable {owed : Owed} {seen bytes rest : Bytes} {b : UInt8}

theorem low_le_high (h : Owed.ofLead? b = some owed) : owed.low ≤ owed.high := by
  unfold Owed.ofLead? at h
  split_ifs at h <;> obtain rfl := Option.some.inj h
  all_goals
    dsimp only
    decide

/-- No character ends before what it still asks for is paid. -/
theorem short_of_pays {low high : UInt8} {more : Nat} (before : ∀ c, ¬String.utf8EncodeChar c <+: seen)
    (pays : ∀ c rest, String.utf8EncodeChar c = seen ++ b :: rest → Pays low high more rest) (c : Char) :
    ¬String.utf8EncodeChar c <+: seen ++ [b] := by
  intro within
  rcases List.prefix_concat_iff.1 within with whole | earlier
  · obtain ⟨_, _, -, -, none⟩ := (pays c [] whole).exists_cons
    cases none
  · exact before c earlier

theorem begun_of_ofLead? (high : ¬b < 0x80) (lead : Owed.ofLead? b = some owed) : Begun owed [b] := by
  have pays : ∀ c rest, String.utf8EncodeChar c = b :: rest → Pays owed.low owed.high owed.more rest := by
    intro c rest spelt
    obtain ⟨owed', lead', paid⟩ := pays_of_utf8EncodeChar spelt high
    rw [lead] at lead'
    rwa [Option.some.inj lead']
  have none_before : ∀ c, ¬String.utf8EncodeChar c <+: [] := fun c within =>
    String.utf8EncodeChar_ne_nil (List.prefix_nil.1 within)
  exact ⟨exact_of_ofLead? lead, low_le_high lead, pays, short_of_pays none_before pays, List.cons_ne_nil _ _⟩

theorem Begun.step {value more : Nat} {low high : UInt8} (h : Begun ⟨value, low, high, more + 1⟩ seen)
    (ge : low ≤ b) (le : b ≤ high) : Begun ⟨value * 64 + bits b, 0x80, 0xbf, more⟩ (seen ++ [b]) := by
  have pays : ∀ c rest, String.utf8EncodeChar c = seen ++ b :: rest → Pays 0x80 0xbf more rest := by
    intro c rest spelt
    obtain ⟨_, _, -, -, same, paid⟩ := h.pays c (b :: rest) spelt
    obtain ⟨rfl, rfl⟩ := List.cons.inj same
    exact paid
  refine ⟨h.exact b ge le, window_le, ?_, short_of_pays h.short pays, by simp⟩
  intro c rest spelt
  exact pays c rest (by rw [spelt, List.append_assoc]; rfl)

theorem Begun.begins (h : Begun owed seen) : Begins seen := by
  obtain ⟨rest, paid⟩ := exists_pays h.possible owed.more
  obtain ⟨c, spelt⟩ := h.exact.exists_char paid
  exact ⟨c, rest, spelt.symm⟩

/-- A character goes on only with a byte that it asks for. -/
theorem Begun.not_begins (h : Begun owed seen) (other : ¬(owed.low ≤ b ∧ b ≤ owed.high)) :
    ¬Begins (seen ++ [b]) := by
  rintro ⟨c, rest, spelt⟩
  rw [List.append_assoc] at spelt
  obtain ⟨_, _, ge, le, same⟩ := (h.pays c _ spelt.symm).exists_cons
  obtain ⟨rfl, -⟩ := List.cons.inj same
  exact other ⟨ge, le⟩

theorem Begun.illFormed (h : Begun owed seen)
    (ends : ∀ b later, rest = b :: later → ¬(owed.low ≤ b ∧ b ≤ owed.high)) : IllFormed seen rest :=
  illFormed_of_ends h.nonempty (.inl h.begins) h.short fun b later same => h.not_begins (ends b later same)

/-! ## The first piece -/

/-- What bytes begin with, a character or a maximal ill-formed part, and what follows it. -/
inductive First : Bytes → Piece → Bytes → Prop
  | char (c : Char) (rest : Bytes) : First (String.utf8EncodeChar c ++ rest) (.char c) rest
  | illFormed {part rest : Bytes} (ill : IllFormed part rest) : First (part ++ rest) (.illFormed part) rest

theorem First.length_lt {piece : Piece} (h : First bytes piece rest) : rest.length < bytes.length := by
  cases h with
  | char c =>
    have : 0 < (String.utf8EncodeChar c).length := List.length_pos_iff.2 String.utf8EncodeChar_ne_nil
    rw [List.length_append]
    omega
  | illFormed ill =>
    have := List.length_pos_iff.2 ill.nonempty
    rw [List.length_append]
    omega

theorem IllFormed.length_le {part part' rest' : Bytes} (h : IllFormed part rest) (h' : IllFormed part' rest')
    (same : part ++ rest = part' ++ rest') : part'.length ≤ part.length := by
  apply Nat.le_of_not_lt
  intro longer
  rcases h'.begun with begins | one
  · have within : part' <+: part ++ rest := same ▸ List.prefix_append part' rest'
    exact h.maximal part' within longer begins
  · have := List.length_pos_iff.2 h.nonempty
    omega

/-- Bytes begin in one way only. -/
theorem First.unique {piece piece' : Piece} {rest' : Bytes} (h : First bytes piece rest)
    (h' : First bytes piece' rest') : piece = piece' ∧ rest = rest' := by
  cases h with
  | char c =>
    generalize whole : String.utf8EncodeChar c ++ rest = bytes at h'
    cases h' with
    | char d =>
      obtain ⟨rfl, rfl⟩ := utf8EncodeChar_append_inj whole
      exact ⟨rfl, rfl⟩
    | illFormed ill => exact absurd ⟨rest, whole⟩ (ill.unconvertible c)
  | @illFormed part _ ill =>
    generalize whole : part ++ rest = bytes at h'
    cases h' with
    | char d => exact absurd ⟨rest', whole.symm⟩ (ill.unconvertible d)
    | illFormed ill' =>
      have length := Nat.le_antisymm (ill'.length_le ill whole.symm) (ill.length_le ill' whole)
      obtain ⟨rfl, rfl⟩ := List.append_inj whole length
      exact ⟨rfl, rfl⟩

/-- A byte that no character begins with is ill-formed by itself. -/
theorem illFormed_stray (high : ¬b < 0x80) (stray : Owed.ofLead? b = none) (rest : Bytes) : IllFormed [b] rest := by
  have none_begins : ∀ c later, String.utf8EncodeChar c ≠ b :: later := by
    intro c later spelt
    obtain ⟨owed, lead, -⟩ := pays_of_utf8EncodeChar spelt high
    rw [stray] at lead
    cases lead
  apply illFormed_of_ends (List.cons_ne_nil b []) (.inr rfl)
  · rintro c ⟨later, whole⟩
    rcases List.exists_cons_of_ne_nil String.utf8EncodeChar_ne_nil with ⟨b', later', spelt⟩
    rw [spelt] at whole
    obtain ⟨rfl, -⟩ := List.cons.inj whole
    exact none_begins c later' spelt
  · rintro b' later - ⟨c, behind, whole⟩
    exact none_begins c _ whole.symm

/-- A character that has begun becomes the first piece, or what was seen of it does. -/
theorem Begun.exists_first (h : Begun owed seen) (bytes : Bytes) :
    ∃ piece rest, First (seen ++ bytes) piece rest ∧
      (State.inside owed seen).run bytes = piece :: State.between.run rest := by
  induction bytes generalizing owed seen with
  | nil => exact ⟨_, [], .illFormed (h.illFormed nofun), rfl⟩
  | cons b later ih =>
    by_cases fits : owed.low ≤ b ∧ b ≤ owed.high
    · obtain ⟨value, low, high, more⟩ := owed
      cases more with
      | zero =>
        refine ⟨.char (Char.ofNat (value * 64 + bits b)), later, ?_, ?_⟩
        · have spelt := h.exact b fits.1 fits.2
          have first := First.char (Char.ofNat (value * 64 + bits b)) later
          rwa [spelt, List.append_assoc] at first
        · simp only [State.run, State.step, if_pos fits]
          rfl
      | succ more =>
        obtain ⟨piece, rest, first, run⟩ := ih (h.step fits.1 fits.2)
        refine ⟨piece, rest, ?_, ?_⟩
        · rwa [List.append_assoc] at first
        · simp only [State.run, State.step, if_pos fits]
          exact run
    · refine ⟨.illFormed seen, b :: later, .illFormed (h.illFormed ?_), ?_⟩
      · intro b' later' same
        obtain ⟨rfl, -⟩ := List.cons.inj same
        exact fits
      · simp only [State.run, State.step, if_neg fits]
        rfl

theorem exists_first (nonempty : bytes ≠ []) :
    ∃ piece rest, First bytes piece rest ∧ pieces bytes = piece :: pieces rest := by
  obtain ⟨b, later, rfl⟩ := List.exists_cons_of_ne_nil nonempty
  by_cases low : b < 0x80
  · refine ⟨.char (Char.ofNat b.toNat), later, ?_, run_between_cons low later⟩
    have first := First.char (Char.ofNat b.toNat) later
    rwa [utf8EncodeChar_one low] at first
  cases lead : Owed.ofLead? b with
  | none =>
    refine ⟨.illFormed [b], later, .illFormed (illFormed_stray low lead later), ?_⟩
    simp only [pieces, State.run, State.step, begin, if_neg low, lead]
    rfl
  | some owed =>
    obtain ⟨piece, rest, first, run⟩ := (begun_of_ofLead? low lead).exists_first later
    refine ⟨piece, rest, first, ?_⟩
    simp only [pieces, State.run, State.step, begin, if_neg low, lead]
    exact run

/-- What is read first is the first piece, and the rest is read apart from it. -/
theorem pieces_of_first {piece : Piece} (h : First bytes piece rest) : pieces bytes = piece :: pieces rest := by
  have nonempty : bytes ≠ [] := List.ne_nil_of_length_pos (Nat.zero_lt_of_lt h.length_lt)
  obtain ⟨piece', rest', first, split⟩ := exists_first nonempty
  obtain ⟨rfl, rfl⟩ := h.unique first
  exact split

theorem lossy_of_first {piece : Piece} (h : First bytes piece rest) : lossy bytes = piece.shown :: lossy rest := by
  rw [lossy, pieces_of_first h, List.map_cons]
  rfl

/-! ## The bytes of pieces -/

/-- The bytes that a piece was read from. -/
def Piece.source : Piece → Bytes
  | .char c => String.utf8EncodeChar c
  | .illFormed bytes => bytes

theorem First.source_append {piece : Piece} (h : First bytes piece rest) : piece.source ++ rest = bytes := by
  cases h with
  | char c => rfl
  | illFormed ill => rfl

/-- Nothing is lost when bytes are taken apart. -/
theorem flatMap_source_pieces (bytes : Bytes) : (pieces bytes).flatMap Piece.source = bytes := by
  by_cases nonempty : bytes = []
  · rw [nonempty]
    rfl
  obtain ⟨piece, rest, first, split⟩ := exists_first nonempty
  have shorter := first.length_lt
  rw [split, List.flatMap_cons, flatMap_source_pieces rest, first.source_append]
termination_by bytes.length

/-- The bytes of a text are taken apart into its characters. -/
theorem pieces_encode (text : List Char) : pieces (encode text) = text.map .char := by
  induction text with
  | nil => rfl
  | cons c rest ih =>
    rw [List.map_cons, ← ih]
    exact pieces_of_first (.char c (encode rest))

/-- Bytes are text if they spell one. -/
theorem isText_iff : isText bytes = true ↔ ∃ text, encode text = bytes := by
  constructor
  · intro h
    exact ⟨lossy bytes, encode_lossy h⟩
  · rintro ⟨text, rfl⟩
    rw [isText, pieces_encode, List.all_map, List.all_eq_true]
    intro c mem
    rfl

/-! ## The text that is shown -/

theorem replaced_lossy (bytes : Bytes) : Replaced bytes (lossy bytes) := by
  by_cases nonempty : bytes = []
  · rw [nonempty]
    exact .nil
  obtain ⟨piece, rest, first, -⟩ := exists_first nonempty
  have shorter := first.length_lt
  have later := replaced_lossy rest
  rw [lossy_of_first first]
  cases first with
  | char c => exact .char c later
  | illFormed ill => exact .illFormed ill later
termination_by bytes.length

/-- **What is shown for bytes** is their text with U+FFFD for each maximal ill-formed part, and nothing else. -/
theorem replaced_iff {text : List Char} : Replaced bytes text ↔ lossy bytes = text := by
  constructor
  · intro h
    induction h with
    | nil => rfl
    | char c later ih => rw [lossy_of_first (.char c _), ih]; rfl
    | illFormed ill later ih => rw [lossy_of_first (.illFormed ill), ih]; rfl
  · rintro rfl
    exact replaced_lossy bytes

/-- An ASCII byte of a text that is shown stands in the bytes themselves. -/
theorem mem_of_mem_encode_lossy {a : UInt8} (ascii : a < 0x80) (h : a ∈ encode (lossy bytes)) : a ∈ bytes := by
  have replaced := replaced_lossy bytes
  generalize lossy bytes = text at h replaced
  induction replaced with
  | nil => exact h
  | char c later ih => exact List.mem_append.2 ((List.mem_append.1 h).imp_right ih)
  | illFormed ill later ih =>
    rcases List.mem_append.1 h with mark | behind
    · have high : ((String.utf8EncodeChar '\uFFFD').all fun b => decide (0x80 ≤ b)) = true := by decide
      have least : 0x80 ≤ a := of_decide_eq_true (List.all_eq_true.1 high a mark)
      exact absurd ascii (UInt8.not_lt.2 least)
    · exact List.mem_append_right _ (ih behind)

end Offscreen.Utf8
