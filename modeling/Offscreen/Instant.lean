/-!
# Instants

A modification time is a whole number of seconds since the epoch, negative before it, and a
fraction that always counts forward. Instants are ordered by seconds, then by the fraction, which is
the order of the nanoseconds since the epoch (`Instant.le_iff_sinceEpoch`).
-/

namespace Offscreen
set_option autoImplicit false

/-- A point in time. -/
structure Instant where
  /-- Whole seconds since the epoch, rounded down. -/
  seconds : Int
  /-- Nanoseconds after that second. -/
  nanos : Fin 1000000000
  deriving DecidableEq, Repr

namespace Instant

instance : LE Instant where
  le a b := a.seconds < b.seconds ∨ a.seconds = b.seconds ∧ a.nanos ≤ b.nanos

instance : DecidableLE Instant := fun a b =>
  inferInstanceAs (Decidable (a.seconds < b.seconds ∨ a.seconds = b.seconds ∧ a.nanos ≤ b.nanos))

theorem le_iff {a b : Instant} :
    a ≤ b ↔ a.seconds < b.seconds ∨ a.seconds = b.seconds ∧ a.nanos ≤ b.nanos := Iff.rfl

/-- Nanoseconds since the epoch, negative before it. -/
def sinceEpoch (t : Instant) : Int :=
  t.seconds * 1000000000 + t.nanos

theorem le_iff_sinceEpoch {a b : Instant} : a ≤ b ↔ a.sinceEpoch ≤ b.sinceEpoch := by
  have fraction_a := a.nanos.isLt
  have fraction_b := b.nanos.isLt
  rw [le_iff, sinceEpoch, sinceEpoch, Fin.le_def]
  omega

theorem sinceEpoch_inj {a b : Instant} : a.sinceEpoch = b.sinceEpoch ↔ a = b := by
  constructor
  · intro same
    obtain ⟨s, n⟩ := a
    obtain ⟨t, m⟩ := b
    simp only [sinceEpoch] at same
    simp only [Instant.mk.injEq]
    exact ⟨by omega, Fin.ext (by omega)⟩
  · rintro rfl
    rfl

instance : Std.IsLinearOrder Instant where
  le_refl _ := le_iff_sinceEpoch.2 (Int.le_refl _)
  le_trans _ _ _ h k := le_iff_sinceEpoch.2 (Int.le_trans (le_iff_sinceEpoch.1 h) (le_iff_sinceEpoch.1 k))
  le_total a b := (Int.le_total a.sinceEpoch b.sinceEpoch).imp le_iff_sinceEpoch.2 le_iff_sinceEpoch.2
  le_antisymm _ _ h k := sinceEpoch_inj.1 (Int.le_antisymm (le_iff_sinceEpoch.1 h) (le_iff_sinceEpoch.1 k))

end Instant
end Offscreen
