import Offscreen.Digest.Md5
import Offscreen.Proofs.Digest.Standard
import Mathlib.Tactic.NormNum.NatFactorial

/-!
# The constants of the steps

The constants are the sines of 1 to 64, in radians, without their signs and cut off after 32 binary places
(`toBitVec_sine`). That is computed in fixed point: the turn by one radian is taken from the exponential series, and
each further one by the addition theorems, with a bound on what rounding has cost so far (`near_turned`). The
sines are far enough from all multiples of the last place for their digits to be certain.
-/

namespace Offscreen.Md5
set_option autoImplicit false

/-! ## Fixed point -/

/-- A real number is given to 128 binary places, up to some units of the last one. -/
def Near (x : ℝ) (digits slack : Int) : Prop :=
  |x * 2 ^ 128 - (digits : ℝ)| ≤ (slack : ℝ)

/-- A real number is given to 256 binary places, as a product is before it is cut off, up to some units of place
128. -/
def Uncut (x : ℝ) (digits slack : Int) : Prop :=
  |x * 2 ^ 128 - (digits : ℝ) / 2 ^ 128| ≤ (slack : ℝ)

theorem scale_pos : (0 : ℝ) < 2 ^ 128 := by
  positivity

section

variable {x y : ℝ} {m n slack slack' : Int}

/-- In a product of numbers that are no more than one, neither error grows. -/
theorem Near.mul (hx : Near x m slack) (hy : Near y n slack') (unit : |x| ≤ 1) (small : |(n : ℝ)| ≤ 2 ^ 128) :
    Uncut (x * y) (m * n) (slack + slack') := by
  have split : x * y * 2 ^ 128 - m * n / 2 ^ 128 =
      (x * 2 ^ 128 - m) * (n / 2 ^ 128) + x * (y * 2 ^ 128 - n) := by
    ring
  have ratio : |(n : ℝ) / 2 ^ 128| ≤ 1 := by
    rw [abs_div, abs_of_pos scale_pos]
    exact div_le_one_of_le₀ small scale_pos.le
  rw [Uncut, Int.cast_mul, Int.cast_add]
  calc |x * y * 2 ^ 128 - m * n / 2 ^ 128|
      ≤ |(x * 2 ^ 128 - m) * (n / 2 ^ 128)| + |x * (y * 2 ^ 128 - n)| := split ▸ abs_add_le _ _
    _ = |x * 2 ^ 128 - m| * |(n : ℝ) / 2 ^ 128| + |x| * |y * 2 ^ 128 - n| := by rw [abs_mul, abs_mul]
    _ ≤ slack * 1 + 1 * slack' := by
      gcongr
      · exact (abs_nonneg _).trans hx
      · exact hx
      · exact hy
    _ = slack + slack' := by ring

theorem Uncut.neg (h : Uncut x m slack) : Uncut (-x) (-m) slack := by
  have flip : -x * 2 ^ 128 - ((-m : Int) : ℝ) / 2 ^ 128 = -(x * 2 ^ 128 - (m : ℝ) / 2 ^ 128) := by
    rw [Int.cast_neg]
    ring
  rw [Uncut, flip, abs_neg]
  exact h

/-- Cutting off costs less than one unit. -/
theorem abs_sub_ediv_le (n : Int) : |(n : ℝ) / 2 ^ 128 - ((n / 2 ^ 128 : Int) : ℝ)| ≤ 1 := by
  have cut : (n : ℝ) = 2 ^ 128 * ((n / 2 ^ 128 : Int) : ℝ) + ((n % 2 ^ 128 : Int) : ℝ) := by
    exact_mod_cast (Int.mul_ediv_add_emod n ((2 : Int) ^ (128 : Nat))).symm
  have low : (0 : ℝ) ≤ ((n % 2 ^ 128 : Int) : ℝ) := by
    exact_mod_cast Int.emod_nonneg n (by decide)
  have high : ((n % 2 ^ 128 : Int) : ℝ) ≤ 2 ^ 128 := by
    exact_mod_cast (Int.emod_lt_of_pos n (by decide : (0 : Int) < 2 ^ 128)).le
  have rest : (n : ℝ) / 2 ^ 128 - ((n / 2 ^ 128 : Int) : ℝ) = ((n % 2 ^ 128 : Int) : ℝ) / 2 ^ 128 := by
    rw [cut]
    ring
  rw [rest, abs_of_nonneg (div_nonneg low scale_pos.le)]
  exact div_le_one_of_le₀ high scale_pos.le

/-- Products are added before they are cut off. -/
theorem Uncut.add (hx : Uncut x m slack) (hy : Uncut y n slack) :
    Near (x + y) ((m + n) / 2 ^ 128) (2 * slack + 1) := by
  have split : (x + y) * 2 ^ 128 - (((m + n) / 2 ^ 128 : Int) : ℝ) =
      (x * 2 ^ 128 - (m : ℝ) / 2 ^ 128) + (y * 2 ^ 128 - (n : ℝ) / 2 ^ 128) +
        (((m + n : Int) : ℝ) / 2 ^ 128 - (((m + n) / 2 ^ 128 : Int) : ℝ)) := by
    rw [Int.cast_add]
    ring
  rw [Near, split]
  calc |(x * 2 ^ 128 - (m : ℝ) / 2 ^ 128) + (y * 2 ^ 128 - (n : ℝ) / 2 ^ 128) +
        (((m + n : Int) : ℝ) / 2 ^ 128 - (((m + n) / 2 ^ 128 : Int) : ℝ))|
      ≤ (slack : ℝ) + (slack : ℝ) + 1 :=
        (abs_add_three _ _ _).trans (add_le_add (add_le_add hx hy) (abs_sub_ediv_le (m + n)))
    _ = ((2 * slack + 1 : Int) : ℝ) := by push_cast; ring

end

/-! ## One radian -/

/-- The even powers of the imaginary unit alternate in sign, and so do the odd ones. -/
theorem sum_I_pow (n : ℕ) :
    ∑ m ∈ Finset.range (2 * n), Complex.I ^ m / (m.factorial : ℂ) =
      (∑ k ∈ Finset.range n, (-1) ^ k / ((2 * k).factorial : ℝ) : ℝ) +
        (∑ k ∈ Finset.range n, (-1) ^ k / ((2 * k + 1).factorial : ℝ) : ℝ) * Complex.I := by
  induction n with
  | zero => simp
  | succ n ih =>
    simp only [Nat.mul_succ, Finset.sum_range_succ]
    rw [ih, pow_succ, pow_mul, Complex.I_sq]
    push_cast
    ring

/-- Sixteen terms of each series are right to 117 places. -/
theorem series_one :
    |Real.cos 1 - ∑ k ∈ Finset.range 16, (-1) ^ k / ((2 * k).factorial : ℝ)| ≤ 1 / 2 ^ 117 ∧
    |Real.sin 1 - ∑ k ∈ Finset.range 16, (-1) ^ k / ((2 * k + 1).factorial : ℝ)| ≤ 1 / 2 ^ 117 := by
  have small : ‖Complex.I‖ ^ (2 * 16) *
      (((2 * 16 : ℕ).succ : ℝ) * (((2 * 16 : ℕ).factorial : ℝ) * (2 * 16 : ℕ))⁻¹) ≤ 1 / 2 ^ 117 := by
    rw [Complex.norm_I]
    norm_num [Nat.factorial]
  have bound := (Complex.exp_bound (x := Complex.I) (by simp) (n := 2 * 16) (by norm_num)).trans small
  have turn : Complex.exp Complex.I = Real.cos 1 + Real.sin 1 * Complex.I := by
    simpa using Complex.exp_mul_I 1
  rw [sum_I_pow, turn] at bound
  have re := (Complex.abs_re_le_norm _).trans bound
  have im := (Complex.abs_im_le_norm _).trans bound
  constructor
  · simpa only [Complex.sub_re, Complex.add_re, Complex.ofReal_re, Complex.re_ofReal_mul, Complex.I_re, mul_zero,
      add_zero] using re
  · simpa only [Complex.sub_im, Complex.add_im, Complex.ofReal_im, Complex.im_ofReal_mul, Complex.I_im, mul_one,
      zero_add] using im

/-- The cosine of one radian in fixed point. -/
def cosOne : Int := 0x8a51407da8345c91c2466d976871b81d

/-- The sine of one radian in fixed point. -/
def sinOne : Int := 0xd76aa47848677020c6e9e909c50f3c0b

/-- What the series and its rounding cost. -/
def slackOne : Int := 2049

/-- A number is near the digits of a series that comes close to it. -/
theorem near_of_series {x series : ℝ} {digits : Int} (close : |x - series| ≤ 1 / 2 ^ 117)
    (rounded : |series * 2 ^ 128 - digits| ≤ 1) : Near x digits slackOne := by
  have split : x * 2 ^ 128 - digits = (x - series) * 2 ^ 128 + (series * 2 ^ 128 - digits) := by
    ring
  have scaled : |(x - series) * 2 ^ 128| ≤ 2048 := by
    rw [abs_mul, abs_of_pos scale_pos]
    linarith
  calc |x * 2 ^ 128 - digits|
      ≤ |(x - series) * 2 ^ 128| + |series * 2 ^ 128 - digits| := split ▸ abs_add_le _ _
    _ ≤ 2048 + 1 := add_le_add scaled rounded
    _ = (slackOne : ℝ) := by norm_num [slackOne]

theorem near_cosOne : Near (Real.cos 1) cosOne slackOne := by
  refine near_of_series series_one.1 ?_
  norm_num [Finset.sum_range_succ, Nat.factorial, cosOne, abs_le]

theorem near_sinOne : Near (Real.sin 1) sinOne slackOne := by
  refine near_of_series series_one.2 ?_
  norm_num [Finset.sum_range_succ, Nat.factorial, sinOne, abs_le]

/-! ## Further radians -/

/-- The cosine and the sine of an angle in fixed point, and how far off they may be. -/
structure Turned where
  cos : Int
  sin : Int
  slack : Int

/-- One radian further. -/
def Turned.next (angle : Turned) : Turned where
  cos := (angle.cos * cosOne - angle.sin * sinOne) / 2 ^ 128
  sin := (angle.sin * cosOne + angle.cos * sinOne) / 2 ^ 128
  slack := 2 * (angle.slack + slackOne) + 1

/-- So many radians. -/
def turned : Nat → Turned
  | 0 => ⟨2 ^ 128, 0, 0⟩
  | n + 1 => (turned n).next

/-- Both numbers of an angle are near the real ones, by the addition theorems. -/
theorem near_turned (n : Nat) :
    Near (Real.cos n) (turned n).cos (turned n).slack ∧ Near (Real.sin n) (turned n).sin (turned n).slack := by
  induction n with
  | zero => norm_num [Near, turned]
  | succ n ih =>
    obtain ⟨cos, sin⟩ := ih
    have cosSmall : |(cosOne : ℝ)| ≤ 2 ^ 128 := by norm_num [cosOne]
    have sinSmall : |(sinOne : ℝ)| ≤ 2 ^ 128 := by norm_num [sinOne]
    have cosCos := cos.mul near_cosOne (Real.abs_cos_le_one n) cosSmall
    have sinSin := sin.mul near_sinOne (Real.abs_sin_le_one n) sinSmall
    have sinCos := sin.mul near_cosOne (Real.abs_sin_le_one n) cosSmall
    have cosSin := cos.mul near_sinOne (Real.abs_cos_le_one n) sinSmall
    rw [Nat.cast_succ, Real.cos_add, Real.sin_add, sub_eq_add_neg]
    exact ⟨cosCos.add sinSin.neg, sinCos.add cosSin⟩

/-! ## The table -/

/-- Without its sign, the sine of so many radians lies between two neighbours on the grid of 32 binary places. -/
def Turned.Between (angle : Turned) (digits : Nat) : Prop :=
  digits * 2 ^ 96 + angle.slack ≤ |angle.sin| ∧ |angle.sin| + angle.slack < (digits + 1) * 2 ^ 96

instance (angle : Turned) (digits : Nat) : Decidable (angle.Between digits) :=
  inferInstanceAs (Decidable (_ ∧ _))

/-- No sine is so close to the grid that the fixed point leaves its digits open. -/
theorem sines_between : ∀ i < 64, (turned (i + 1)).Between (sines.getD i 0).toNat := by
  decide +kernel

theorem floor_of_near {x : ℝ} {angle : Turned} {digits : Nat} (near : Near x angle.sin angle.slack)
    (between : angle.Between digits) : digits = ⌊2 ^ 32 * |x|⌋₊ := by
  have low : (digits : ℝ) * 2 ^ 96 + (angle.slack : ℝ) ≤ |(angle.sin : ℝ)| := by exact_mod_cast between.1
  have high : |(angle.sin : ℝ)| + (angle.slack : ℝ) < ((digits : ℝ) + 1) * 2 ^ 96 := by exact_mod_cast between.2
  have apart := (abs_abs_sub_abs_le_abs_sub (x * 2 ^ 128) (angle.sin : ℝ)).trans near
  rw [abs_mul, abs_of_pos scale_pos, abs_le] at apart
  refine ((Nat.floor_eq_iff (by positivity)).2 ⟨?_, ?_⟩).symm
  · linarith
  · linarith

/-- The constant of a step is the sine of its number, without its sign and cut off after 32 binary places. -/
theorem toBitVec_sine {i : Nat} (lt : i < 64) : (sines.getD i 0).toBitVec = Standard.constant (i + 1) := by
  have floor := floor_of_near (near_turned (i + 1)).2 (sines_between i lt)
  rw [Standard.constant, Nat.cast_pow, Nat.cast_ofNat, ← floor]
  simp

end Offscreen.Md5
