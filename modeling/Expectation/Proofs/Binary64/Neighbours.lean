import Expectation.Binary64.Shortest
import Mathlib.Algebra.Order.Field.Power
import Mathlib.Data.Rat.Cast.Order
import Mathlib.Tactic.FieldSimp
import Mathlib.Tactic.Linarith
import Mathlib.Tactic.NormNum
import Mathlib.Tactic.Positivity
import Mathlib.Tactic.Ring

/-!
# Numbers and their neighbours

Without its sign, a number is given by the other sixty-three bits of its word, and
neighbouring words are neighbouring numbers.  Measured in units of the least positive
number every finite number is a natural number, and from a word to the next it grows
by a power of two.

What rounds to a number lies between the midpoints to its two neighbours.  A midpoint
itself goes to the number whose word is even, and of two neighbouring words only one
is.  So no quotient rounds to two numbers.

## Main results

* `units_succ`: the distance between neighbours.
* `eq_of_near`: no quotient is near to two numbers.
* `admits_iff_near`: the decimals that are admitted for a number are near to it.
-/

namespace Expectation.Binary64

variable {x : Binary64} {w : Nat}

/-! ## Words in units of the least positive number -/

/-- The bits of a number without its sign. -/
def magnitude (x : Binary64) : Nat := x.bits.toNat % 2 ^ 63

/-- The exponent of the distance between a magnitude and the next one. -/
def spacing (w : Nat) : Nat := w / 2 ^ 52 - 1

/-- A magnitude in units of the least positive number. -/
def units (w : Nat) : Nat :=
  if w < 2 ^ 52 then w else (w % 2 ^ 52 + 2 ^ 52) * 2 ^ spacing w

theorem units_of_lt (h : w < 2 ^ 52) : units w = w := if_pos h

theorem units_of_le (h : 2 ^ 52 ≤ w) :
    units w = (w % 2 ^ 52 + 2 ^ 52) * 2 ^ spacing w :=
  if_neg (Nat.not_lt.mpr h)

/-- Above the numbers without a hidden bit the spacing doubles with every full fraction. -/
theorem spacing_succ_of_full (h : 2 ^ 52 ≤ w) (hfull : w % 2 ^ 52 = 2 ^ 52 - 1) :
    spacing (w + 1) = spacing w + 1 := by
  unfold spacing
  omega

theorem spacing_succ_of_not_full (h : w % 2 ^ 52 ≠ 2 ^ 52 - 1) :
    spacing (w + 1) = spacing w := by
  unfold spacing
  omega

/-- **The distance between neighbours.** -/
theorem units_succ (w : Nat) : units (w + 1) = units w + 2 ^ spacing w := by
  by_cases hsmall : w < 2 ^ 52
  · have hspacing : spacing w = 0 := by
      unfold spacing
      omega
    rw [units_of_lt hsmall, hspacing]
    by_cases hlast : w + 1 < 2 ^ 52
    · exact units_of_lt hlast
    · obtain rfl : w = 2 ^ 52 - 1 := by omega
      rfl
  · have hlarge : 2 ^ 52 ≤ w := Nat.not_lt.mp hsmall
    rw [units_of_le hlarge, units_of_le (Nat.le_succ_of_le hlarge)]
    by_cases hfull : w % 2 ^ 52 = 2 ^ 52 - 1
    · have hnext : (w + 1) % 2 ^ 52 = 0 := by omega
      rw [spacing_succ_of_full hlarge hfull, hnext, hfull, Nat.pow_succ]
      ring
    · have hnext : (w + 1) % 2 ^ 52 = w % 2 ^ 52 + 1 := by omega
      rw [spacing_succ_of_not_full hfull, hnext]
      ring

theorem units_strictMono : StrictMono units := by
  refine strictMono_nat_of_lt_succ fun w => ?_
  rw [units_succ]
  exact Nat.lt_add_of_pos_right (Nat.two_pow_pos _)

theorem units_pos (hw : 0 < w) : 0 < units w := units_strictMono hw

/-! ## Being near to a number -/

/-- A quotient, in units of the least positive number, is nearest to a magnitude: it lies
between the midpoints to the neighbours, and is a midpoint only of an even magnitude. -/
def Near (w : Nat) (q : ℚ) : Prop :=
  if w % 2 = 0 then units (w - 1) + units w ≤ 2 * q ∧ 2 * q ≤ units w + units (w + 1)
  else units (w - 1) + units w < 2 * q ∧ 2 * q < units w + units (w + 1)

theorem Near.bounds {q : ℚ} (h : Near w q) :
    units (w - 1) + units w ≤ 2 * q ∧ 2 * q ≤ units w + units (w + 1) := by
  unfold Near at h
  split at h
  · exact h
  · exact ⟨h.1.le, h.2.le⟩

theorem Near.pos {q : ℚ} (hw : 0 < w) (h : Near w q) : 0 < q := by
  have hpos : (0 : ℚ) < units w := by exact_mod_cast units_pos hw
  have hlow : (0 : ℚ) ≤ units (w - 1) := Nat.cast_nonneg _
  have hbound := h.bounds.1
  linarith

/-- What is near to a magnitude is not near to a larger one. -/
theorem not_near_of_lt {v : Nat} {q : ℚ} (hlt : v < w) (hv : Near v q) : ¬ Near w q := by
  intro hw
  have hhigh := hv.bounds.2
  have hlow := hw.bounds.1
  by_cases hnext : w = v + 1
  · -- the two share a midpoint, which only the even one of them claims
    subst hnext
    rw [Nat.add_sub_cancel] at hlow
    unfold Near at hv hw
    rw [Nat.add_sub_cancel] at hw
    split at hv
    · rw [if_neg (by omega)] at hw
      linarith [hw.1, hv.2]
    · linarith [hv.2]
  · have hfirst : units v < units (w - 1) := units_strictMono (by omega)
    have hsecond : units (v + 1) < units w := units_strictMono (by omega)
    have hfirst' : (units v : ℚ) < units (w - 1) := by exact_mod_cast hfirst
    have hsecond' : (units (v + 1) : ℚ) < units w := by exact_mod_cast hsecond
    linarith

/-- **No quotient is near to two magnitudes.** -/
theorem eq_of_near {v : Nat} {q : ℚ} (hv : Near v q) (hw : Near w q) : v = w := by
  rcases Nat.lt_trichotomy v w with hlt | heq | hlt
  · exact absurd hw (not_near_of_lt hlt hv)
  · exact heq
  · exact absurd hv (not_near_of_lt hlt hw)

/-! ## The fields of a number -/

theorem exponentField_eq (x : Binary64) : x.exponentField = x.magnitude / 2 ^ 52 := by
  show x.bits.toNat / 2 ^ 52 % 2 ^ 11 = x.bits.toNat % 2 ^ 63 / 2 ^ 52
  omega

theorem fraction_eq (x : Binary64) : x.fraction = x.magnitude % 2 ^ 52 := by
  show x.bits.toNat % 2 ^ 52 = x.bits.toNat % 2 ^ 63 % 2 ^ 52
  omega

/-- The zeros are the numbers without magnitude. -/
theorem isZero_iff (x : Binary64) : x.isZero = true ↔ x.magnitude = 0 := by
  rw [isZero, Bool.and_eq_true, beq_iff_eq, beq_iff_eq, exponentField_eq, fraction_eq]
  omega

/-- A number is its sign and its magnitude. -/
theorem eq_of_magnitude_eq {x y : Binary64} (hsign : x.negative = y.negative)
    (h : x.magnitude = y.magnitude) : x = y := by
  have hbits : x.bits.toNat = y.bits.toNat := by
    have hx := x.bits.toNat_lt
    have hy := y.bits.toNat_lt
    have hiff : 2 ^ 63 ≤ x.bits.toNat ↔ 2 ^ 63 ≤ y.bits.toNat := decide_eq_decide.mp hsign
    unfold magnitude at h
    omega
  obtain ⟨bits⟩ := x
  obtain ⟨bits'⟩ := y
  exact congrArg Binary64.mk (UInt64.toNat_inj.mp hbits)

theorem exponent_eq (x : Binary64) : x.exponent = (spacing x.magnitude : Int) - 1074 := by
  rw [exponent, exponentField_eq, spacing]
  split <;> omega

/-- The mantissa counts the units at the spacing of the number. -/
theorem units_magnitude (x : Binary64) :
    units x.magnitude = x.mantissa * 2 ^ spacing x.magnitude := by
  rw [mantissa, exponentField_eq, fraction_eq]
  split
  · next h =>
    have hsmall : x.magnitude < 2 ^ 52 := by omega
    have hspacing : spacing x.magnitude = 0 := by
      unfold spacing
      omega
    rw [units_of_lt hsmall, hspacing, Nat.mod_eq_of_lt hsmall, Nat.pow_zero, Nat.mul_one]
  · next h => exact units_of_le (by omega)

theorem mantissa_mod_two (x : Binary64) : x.mantissa % 2 = x.magnitude % 2 := by
  have hpower : Nat.pow 2 52 = 2 ^ 52 := rfl
  rw [mantissa, fraction_eq, hpower]
  split <;> omega

/-- The distance to the number below is half the one to the number above exactly where
the interval of a number is not centred. -/
theorem spacing_pred {v : Nat} (h : x.magnitude = v + 1) :
    if x.fraction = 0 && 1 < x.exponentField then spacing (v + 1) = spacing v + 1
    else spacing (v + 1) = spacing v := by
  rw [fraction_eq, exponentField_eq, h]
  split
  · next hedge =>
    simp only [Bool.and_eq_true, decide_eq_true_eq] at hedge
    exact spacing_succ_of_full (by omega) (by omega)
  · next hinner =>
    simp only [Bool.and_eq_true, decide_eq_true_eq, not_and] at hinner
    unfold spacing
    omega

/-- **The ends of the interval of a number** are the midpoints to its neighbours. -/
theorem quarters_eq (hx : 0 < x.magnitude) :
    x.quarters.1 * 2 ^ spacing x.magnitude =
        2 * (units (x.magnitude - 1) + units x.magnitude) ∧
      x.quarters.2.2 * 2 ^ spacing x.magnitude =
        2 * (units x.magnitude + units (x.magnitude + 1)) := by
  obtain ⟨v, hv⟩ : ∃ v, x.magnitude = v + 1 := ⟨x.magnitude - 1, by omega⟩
  have hunits := units_magnitude x
  have hspacing := spacing_pred hv
  have hbelow := units_succ v
  have habove := units_succ (v + 1)
  rw [hv] at hunits ⊢
  rw [Nat.add_sub_cancel]
  have hfour : 4 * x.mantissa * 2 ^ spacing (v + 1) = 4 * units (v + 1) := by
    rw [hunits, Nat.mul_assoc]
  refine ⟨?_, ?_⟩
  · simp only [quarters]
    split
    · next hedge =>
      rw [if_pos hedge] at hspacing
      rw [Nat.sub_mul, hfour, hspacing, Nat.pow_succ]
      omega
    · next hinner =>
      rw [if_neg hinner] at hspacing
      rw [Nat.sub_mul, hfour, hspacing]
      omega
  · show (4 * x.mantissa + 2) * _ = _
    rw [Nat.add_mul, hfour]
    omega

/-! ## Decimals -/

/-- A power with any exponent, as the quotient of two powers of natural numbers. -/
theorem zpow_eq_div (b : Nat) (hb : 0 < b) (p : Int) :
    (b : ℚ) ^ p = ((b ^ p.toNat : Nat) : ℚ) / ((b ^ (-p).toNat : Nat) : ℚ) := by
  have hne : (b : ℚ) ≠ 0 := by exact_mod_cast hb.ne'
  rw [Nat.cast_pow, Nat.cast_pow, ← zpow_natCast, ← zpow_natCast, ← zpow_sub₀ hne,
    Int.toNat_sub_toNat_neg]

/-- A finite number in units of the least positive one. -/
theorem num_div_den (x : Binary64) :
    (x.num : ℚ) / x.den * 2 ^ 1074 = units x.magnitude := by
  have hpower : (2 : ℚ) ^ x.exponent = (2 ^ x.exponent.toNat : Nat) / x.den :=
    zpow_eq_div 2 (by decide) x.exponent
  have hnum : (x.num : ℚ) = x.mantissa * (2 ^ x.exponent.toNat : Nat) := by
    rw [← Nat.cast_mul]
    rfl
  calc (x.num : ℚ) / x.den * 2 ^ 1074
      = (x.mantissa : ℚ) * 2 ^ x.exponent * 2 ^ 1074 := by rw [hnum, hpower, mul_div_assoc]
    _ = (x.mantissa : ℚ) * 2 ^ spacing x.magnitude := by
        rw [exponent_eq, zpow_sub₀ two_ne_zero, zpow_natCast, mul_assoc]
        norm_num
    _ = units x.magnitude := by
        rw [units_magnitude]
        push_cast
        rfl

/-- The comparisons that decide whether a decimal is admitted, in units of the least
positive number up to one factor. -/
theorem exists_scale (x : Binary64) (c : Nat) (p : Int) :
    ∃ k : ℚ, 0 < k ∧
      (∀ a s : Nat, a * 2 ^ spacing x.magnitude = 2 * s →
        ((a * (Nat.pow 10 (-p).toNat * Nat.pow 2 (x.exponent - 2).toNat) : Nat) : ℚ) = s * k) ∧
      ((c * Nat.pow 10 p.toNat * Nat.pow 2 (-(x.exponent - 2)).toNat : Nat) : ℚ) =
        2 * (c * (10 : ℚ) ^ p * 2 ^ 1074) * k := by
  have hten : (10 : ℚ) ^ p = ((Nat.pow 10 p.toNat : Nat) : ℚ) / (Nat.pow 10 (-p).toNat : Nat) :=
    zpow_eq_div 10 (by decide) p
  have htwo : (2 : ℚ) ^ (x.exponent - 2) = ((Nat.pow 2 (x.exponent - 2).toNat : Nat) : ℚ) /
      (Nat.pow 2 (-(x.exponent - 2)).toNat : Nat) :=
    zpow_eq_div 2 (by decide) (x.exponent - 2)
  have hspacing : (2 : ℚ) ^ (x.exponent - 2) = 2 ^ spacing x.magnitude / (4 * 2 ^ 1074) := by
    have hfour : (2 : ℚ) ^ (2 : Int) = 4 := by norm_num
    rw [exponent_eq, zpow_sub₀ two_ne_zero, zpow_sub₀ two_ne_zero, zpow_natCast, hfour, div_div,
      mul_comm]
    rfl
  have htenth : 0 < Nat.pow 10 (-p).toNat := Nat.pow_pos (by decide)
  have hhalf : 0 < Nat.pow 2 (-(x.exponent - 2)).toNat := Nat.pow_pos (by decide)
  have hunit : (0 : ℚ) < 2 ^ 1074 := by positivity
  generalize (2 : ℚ) ^ 1074 = unit at hspacing hunit ⊢
  generalize Nat.pow 10 p.toNat = tens, Nat.pow 10 (-p).toNat = tenths at *
  generalize Nat.pow 2 (x.exponent - 2).toNat = twos,
    Nat.pow 2 (-(x.exponent - 2)).toNat = halves at *
  have htenths : (0 : ℚ) < tenths := by exact_mod_cast htenth
  have hhalves : (0 : ℚ) < halves := by exact_mod_cast hhalf
  refine ⟨tenths * halves / (2 * unit), by positivity, fun a s h => ?_, ?_⟩
  · have hbound : (a : ℚ) * 2 ^ spacing x.magnitude = 2 * s := by exact_mod_cast h
    have hpower : (twos : ℚ) = 2 ^ spacing x.magnitude / (4 * unit) * halves := by
      rw [← hspacing, htwo, div_mul_cancel₀ _ hhalves.ne']
    push_cast
    rw [hpower]
    calc (a : ℚ) * (tenths * (2 ^ spacing x.magnitude / (4 * unit) * halves))
        = a * 2 ^ spacing x.magnitude * (tenths * halves / (4 * unit)) := by ring
      _ = s * (tenths * halves / (2 * unit)) := by
          rw [hbound]
          ring
  · push_cast
    rw [hten]
    field_simp

/-- **The decimals that are admitted for a number are near to it.** -/
theorem admits_iff_near (hx : 0 < x.magnitude) (c : Nat) (p : Int) :
    admits x c p = true ↔ Near x.magnitude (c * (10 : ℚ) ^ p * 2 ^ 1074) := by
  obtain ⟨hlow, hhigh⟩ := quarters_eq hx
  obtain ⟨k, hk, hscale, hdecimal⟩ := exists_scale x c p
  have hbelow := hscale _ _ hlow
  have habove := hscale _ _ hhigh
  generalize c * (10 : ℚ) ^ p * 2 ^ 1074 = q at hdecimal ⊢
  unfold admits Near
  rw [← mantissa_mod_two]
  simp only
  split
  · rw [Bool.and_eq_true, decide_eq_true_eq, decide_eq_true_eq, ← @Nat.cast_le ℚ,
      ← @Nat.cast_le ℚ, hbelow, habove, hdecimal, mul_le_mul_iff_left₀ hk,
      mul_le_mul_iff_left₀ hk]
    push_cast
    rfl
  · rw [Bool.and_eq_true, decide_eq_true_eq, decide_eq_true_eq, ← @Nat.cast_lt ℚ,
      ← @Nat.cast_lt ℚ, hbelow, habove, hdecimal, mul_lt_mul_iff_left₀ hk,
      mul_lt_mul_iff_left₀ hk]
    push_cast
    rfl

end Expectation.Binary64
