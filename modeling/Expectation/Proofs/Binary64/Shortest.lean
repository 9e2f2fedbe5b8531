import Expectation.Proofs.Binary64.Neighbours
import Mathlib.Data.Nat.Cast.Order.Field

/-!
# The shortest decimal of a number

The search for the shortest decimal looks at the two neighbours of a number on finer
and finer grids of decimals.  With seventeen digits the step of the grid is less than
the distance between the midpoints around the number, so one of the two lies between
them: the search always ends at a decimal that is near to the number.  Zeros at the
end of the digits are then moved into the scale, and the value stays.

## Main results

* `gridPoint?_ne_none`: a grid that is fine enough hits.
* `near_shortest`: the shortest decimal is near to the number.
* `eq_of_value_shortest_eq`: numbers with one shortest decimal have one magnitude.
-/

namespace Expectation.Binary64

variable {x : Binary64} {w : Nat} {upOnTie : Nat → Bool}

/-- The value of a decimal. -/
def Decimal.value (d : Decimal) : ℚ := d.digits * (10 : ℚ) ^ d.scale

/-! ## Grids -/

theorem near_of_lt {q : ℚ} (hlow : units (w - 1) + units w < 2 * q)
    (hhigh : 2 * q < units w + units (w + 1)) : Near w q := by
  unfold Near
  split
  · exact ⟨hlow.le, hhigh.le⟩
  · exact ⟨hlow, hhigh⟩

/-- Between a number and its predecessor the spacing stays, or it doubles and the number
is a power of two. -/
theorem spacing_cases (w : Nat) :
    spacing (w + 1) = spacing w ∨
      (w + 1) % 2 ^ 52 = 0 ∧ 2 ^ 52 ≤ w + 1 ∧ spacing (w + 1) = spacing w + 1 := by
  by_cases hfull : 2 ^ 52 ≤ w ∧ w % 2 ^ 52 = 2 ^ 52 - 1
  · exact .inr ⟨by omega, by omega, spacing_succ_of_full hfull.1 hfull.2⟩
  · refine .inl ?_
    unfold spacing
    omega

/-- A number is less than its spacing with sixteen more digits. -/
theorem two_mul_units_lt (hw : 0 < w) :
    2 * units w < 10 ^ 16 * (2 ^ spacing w + 2 ^ spacing (w - 1)) := by
  obtain ⟨v, rfl⟩ : ∃ v, w = v + 1 := ⟨w - 1, by omega⟩
  have hpos : 0 < 2 ^ spacing v := Nat.two_pow_pos _
  have hle : units (v + 1) ≤ (2 ^ 53 - 1) * 2 ^ spacing (v + 1) := by
    by_cases hsmall : v + 1 < 2 ^ 52
    · have hone : 0 < 2 ^ spacing (v + 1) := Nat.two_pow_pos _
      rw [units_of_lt hsmall]
      omega
    · rw [units_of_le (by omega)]
      exact Nat.mul_le_mul_right _ (by omega)
  rw [Nat.add_sub_cancel]
  rcases spacing_cases v with hsame | ⟨hpower, hlarge, hdouble⟩
  · rw [hsame] at hle ⊢
    omega
  · rw [units_of_le hlarge, hpower, hdouble, Nat.pow_succ]
    omega

/-- The grid point that is chosen is admitted. -/
theorem admits_of_gridPoint? {p : Int} {c : Nat} (h : gridPoint? x upOnTie p = some c) :
    admits x c p = true := by
  unfold gridPoint? at h
  simp only at h
  split at h
  · next hboth =>
    obtain ⟨hbelow, habove⟩ := Bool.and_eq_true_iff.mp hboth
    split at h
    · exact Option.some.inj h ▸ hbelow
    · split at h
      · exact Option.some.inj h ▸ habove
      · split at h
        · exact Option.some.inj h ▸ habove
        · exact Option.some.inj h ▸ hbelow
  · split at h
    · next hbelow => exact Option.some.inj h ▸ hbelow
    · split at h
      · next habove => exact Option.some.inj h ▸ habove
      · contradiction

/-- Where no grid point is chosen, neither of the two that are looked at is admitted. -/
theorem admits_of_gridPoint?_eq_none {p : Int} (h : gridPoint? x upOnTie p = none) :
    ∃ q, q = x.num * Nat.pow 10 (-p).toNat / (x.den * Nat.pow 10 p.toNat) ∧
      admits x q p = false ∧ admits x (q + 1) p = false := by
  refine ⟨_, rfl, ?_⟩
  unfold gridPoint? at h
  simp only at h
  split at h
  · split_ifs at h
  · split at h
    · contradiction
    · next hbelow =>
      split at h
      · contradiction
      · next habove => exact ⟨Bool.eq_false_iff.mpr hbelow, Bool.eq_false_iff.mpr habove⟩

/-- A number lies between the two grid points that are looked at. -/
theorem grid_bounds (num : Nat) {den : Nat} (hden : 0 < den) (p : Int) {q : Nat}
    (hq : q = num * Nat.pow 10 (-p).toNat / (den * Nat.pow 10 p.toNat)) :
    (q : ℚ) * 10 ^ p ≤ num / den ∧ (num / den : ℚ) < (q + 1 : Nat) * 10 ^ p := by
  have hten : (10 : ℚ) ^ p = ((Nat.pow 10 p.toNat : Nat) : ℚ) / (Nat.pow 10 (-p).toNat : Nat) :=
    zpow_eq_div 10 (by decide) p
  have htens : 0 < Nat.pow 10 p.toNat := Nat.pow_pos (by decide)
  have htenths : 0 < Nat.pow 10 (-p).toNat := Nat.pow_pos (by decide)
  have hdiv : 0 < den * Nat.pow 10 p.toNat := Nat.mul_pos hden htens
  have hlow := Nat.div_mul_le_self (num * Nat.pow 10 (-p).toNat) (den * Nat.pow 10 p.toNat)
  have hhigh := Nat.lt_mul_div_succ (num * Nat.pow 10 (-p).toNat) hdiv
  rw [← hq] at hlow hhigh
  rw [hten]
  generalize Nat.pow 10 p.toNat = tens, Nat.pow 10 (-p).toNat = tenths at *
  have hden' : (0 : ℚ) < den := by exact_mod_cast hden
  have htenths' : (0 : ℚ) < tenths := by exact_mod_cast htenths
  have hlow' : (q : ℚ) * (den * tens) ≤ num * tenths := by exact_mod_cast hlow
  have hhigh' : (num : ℚ) * tenths < den * tens * (q + 1 : Nat) := by exact_mod_cast hhigh
  refine ⟨?_, ?_⟩
  · rw [← mul_div_assoc, div_le_div_iff₀ htenths' hden']
    linarith
  · rw [← mul_div_assoc, div_lt_div_iff₀ hden' htenths']
    linarith

theorem den_pos (x : Binary64) : 0 < x.den := Nat.pow_pos (by decide)

/-- **A grid that is fine enough hits.** -/
theorem gridPoint?_ne_none (hx : 0 < x.magnitude) {p : Int}
    (hp : (10 : ℚ) ^ p * 10 ^ 16 ≤ x.num / x.den) : gridPoint? x upOnTie p ≠ none := by
  intro hnone
  obtain ⟨q, hq, hbelow, habove⟩ := admits_of_gridPoint?_eq_none hnone
  rw [← Bool.not_eq_true, admits_iff_near hx] at hbelow habove
  obtain ⟨hfloor, hceiling⟩ := grid_bounds x.num x.den_pos p hq
  -- everything in units of the least positive number
  have hvalue := num_div_den x
  have hunit : (0 : ℚ) < 2 ^ 1074 := by positivity
  generalize (2 : ℚ) ^ 1074 = unit at *
  have hstep := mul_le_mul_of_nonneg_right hp hunit.le
  have hfloor' := mul_le_mul_of_nonneg_right hfloor hunit.le
  have hceiling' := mul_lt_mul_of_pos_right hceiling hunit
  rw [hvalue] at hstep hfloor' hceiling'
  obtain ⟨v, hv⟩ : ∃ v, x.magnitude = v + 1 := ⟨x.magnitude - 1, by omega⟩
  have hfine := two_mul_units_lt hx
  rw [hv] at hbelow habove hstep hfloor' hceiling' hfine
  rw [Nat.add_sub_cancel] at hfine
  have hpred : (units (v + 1) : ℚ) = units v + 2 ^ spacing v := by exact_mod_cast units_succ v
  have hsucc : (units (v + 1 + 1) : ℚ) = units (v + 1) + 2 ^ spacing (v + 1) := by
    exact_mod_cast units_succ (v + 1)
  have hfine' : 2 * (units (v + 1) : ℚ) < 10 ^ 16 * (2 ^ spacing (v + 1) + 2 ^ spacing v) := by
    exact_mod_cast hfine
  have hhalf : (0 : ℚ) < 2 ^ spacing v := by positivity
  have hhalf' : (0 : ℚ) < 2 ^ spacing (v + 1) := by positivity
  have hlow : 2 * ((q : ℚ) * 10 ^ p * unit) ≤ units v + units (v + 1) := by
    by_contra hmore
    exact hbelow (near_of_lt (not_le.mp hmore) (by linarith))
  have hhigh : (units (v + 1) + units (v + 1 + 1) : ℚ) ≤
      2 * (((q + 1 : Nat) : ℚ) * 10 ^ p * unit) := by
    by_contra hless
    refine habove (near_of_lt ?_ (not_le.mp hless))
    rw [Nat.add_sub_cancel]
    linarith
  push_cast at hhigh
  linarith

/-! ## The first digit -/

theorem exists_leadingZeros {fuel num den : Nat} (start : Nat) (h : den ≤ num * 10 ^ fuel) :
    ∃ j, leadingZeros fuel start num den = start + j ∧ den ≤ num * 10 ^ j := by
  induction fuel generalizing num start with
  | zero => exact ⟨0, rfl, h⟩
  | succ fuel ih =>
      rw [leadingZeros]
      split
      · next hle => exact ⟨0, rfl, by rwa [Nat.pow_zero, Nat.mul_one]⟩
      · have hnext : den ≤ num * 10 * 10 ^ fuel := by rwa [Nat.mul_assoc, ← Nat.pow_succ']
        obtain ⟨j, hj, hle⟩ := ih (start + 1) hnext
        refine ⟨j + 1, by rw [hj, Nat.add_right_comm, Nat.add_assoc], ?_⟩
        rwa [Nat.pow_succ', ← Nat.mul_assoc]

theorem pow_length_toDigits_le {n : Nat} (hn : 0 < n) :
    10 ^ ((Nat.toDigits 10 n).length - 1) ≤ n := by
  have hlength : 0 < (Nat.toDigits 10 n).length := Nat.length_toDigits_pos
  by_cases hone : (Nat.toDigits 10 n).length = 1
  · rw [hone]
    exact hn
  · by_contra hless
    have hshort := (Nat.length_toDigits_le_iff (by decide)
      (by omega : 0 < (Nat.toDigits 10 n).length - 1)).mpr (Nat.lt_of_not_le hless)
    omega

/-- **The first digit of a number** stands where its exponent says, or further to the
front. -/
theorem zpow_decimalExponent_le {num den : Nat} (hden : 0 < den) (h : den ≤ num * 10 ^ 400) :
    (10 : ℚ) ^ decimalExponent num den ≤ num / den := by
  have hden' : (0 : ℚ) < den := by exact_mod_cast hden
  unfold decimalExponent
  split
  · next hle =>
    have hpos : 0 < num / den := Nat.div_pos hle hden
    have hlength : 0 < (Nat.toDigits 10 (num / den)).length := Nat.length_toDigits_pos
    have hpower : ((10 ^ ((Nat.toDigits 10 (num / den)).length - 1) : Nat) : ℚ) ≤
        (num / den : Nat) := by
      exact_mod_cast pow_length_toDigits_le hpos
    have hexponent : ((Nat.toDigits 10 (num / den)).length : Int) - 1 =
        ((Nat.toDigits 10 (num / den)).length - 1 : Nat) := by omega
    rw [hexponent, zpow_natCast]
    push_cast at hpower
    exact hpower.trans Nat.cast_div_le
  · obtain ⟨j, hj, hle⟩ := exists_leadingZeros 0 h
    have hle' : (den : ℚ) ≤ num * 10 ^ j := by exact_mod_cast hle
    rw [hj, Nat.zero_add, zpow_neg, zpow_natCast, le_div_iff₀ hden']
    rw [inv_mul_le_iff₀ (by positivity)]
    linarith

theorem two_pow_le {e k : Nat} (h : e ≤ 3 * k) : 2 ^ e ≤ 10 ^ k :=
  calc 2 ^ e ≤ 2 ^ (3 * k) := Nat.pow_le_pow_right (by decide) h
    _ = 8 ^ k := Nat.pow_mul 2 3 k
    _ ≤ 10 ^ k := Nat.pow_le_pow_left (by decide) k

/-- No number is so small that its first digit is not found. -/
theorem den_le (hx : 0 < x.magnitude) : x.den ≤ x.num * 10 ^ 400 := by
  have hunits := units_pos hx
  rw [units_magnitude] at hunits
  have hnum : 0 < x.num := Nat.mul_pos (Nat.pos_of_mul_pos_right hunits) (Nat.pow_pos (by decide))
  have hexponent : (-x.exponent).toNat ≤ 1074 := by
    rw [exponent_eq]
    omega
  exact (two_pow_le (by omega)).trans (Nat.le_mul_of_pos_left _ hnum)

/-! ## The search -/

/-- **The search ends at a grid point that is admitted.** -/
theorem admits_searchDigits (hx : 0 < x.magnitude) {k : Int}
    (hk : (10 : ℚ) ^ k ≤ x.num / x.den) {fuel count : Nat} (hfuel : fuel + count = 17) :
    admits x (searchDigits x upOnTie k (fuel + 1) count).digits
      (searchDigits x upOnTie k (fuel + 1) count).scale = true := by
  induction fuel generalizing count with
  | zero =>
      have hfine : (10 : ℚ) ^ (k - count + 1) * 10 ^ 16 ≤ x.num / x.den := by
        refine le_of_eq_of_le ?_ hk
        rw [← zpow_natCast (10 : ℚ) 16, ← zpow_add₀ (by norm_num)]
        congr 1
        omega
      rw [searchDigits]
      split
      · next c hc => exact admits_of_gridPoint? hc
      · next hnone => exact absurd hnone (gridPoint?_ne_none hx hfine)
  | succ fuel ih =>
      rw [searchDigits]
      split
      · next c hc => exact admits_of_gridPoint? hc
      · exact ih (by omega)

/-- Zeros at the end of the digits count in the scale. -/
theorem value_reduced (d : Decimal) : d.reduced.value = d.value := by
  have hgo : ∀ fuel n s, (Decimal.reduced.go fuel n s).value = n * (10 : ℚ) ^ s := by
    intro fuel
    induction fuel with
    | zero => exact fun n s => rfl
    | succ fuel ih =>
        intro n s
        rw [Decimal.reduced.go]
        split
        · next hzero =>
          have hdigit : n = 10 * (n / 10) := by
            simp only [Bool.and_eq_true, decide_eq_true_eq] at hzero
            omega
          have hcast : (n : ℚ) = 10 * (n / 10 : Nat) := by exact_mod_cast hdigit
          rw [ih, hcast, zpow_add_one₀ (by norm_num)]
          ring
        · rfl
  exact hgo 20 d.digits d.scale

/-- **The shortest decimal is near to the number.** -/
theorem near_shortest (hx : 0 < x.magnitude) (upOnTie : Nat → Bool) :
    Near x.magnitude ((x.shortest upOnTie).value * 2 ^ 1074) := by
  rw [shortest, value_reduced]
  exact (admits_iff_near hx _ _).mp
    (admits_searchDigits hx (zpow_decimalExponent_le x.den_pos (den_le hx)) rfl)

/-- The shortest decimal of a number is not zero. -/
theorem value_shortest_pos (hx : 0 < x.magnitude) (upOnTie : Nat → Bool) :
    0 < (x.shortest upOnTie).value :=
  pos_of_mul_pos_left ((near_shortest hx upOnTie).pos hx) (by positivity)

/-- **Numbers with one shortest decimal have one magnitude.** -/
theorem eq_of_value_shortest_eq {y : Binary64} (hx : 0 < x.magnitude) (hy : 0 < y.magnitude)
    (h : (x.shortest upOnTie).value = (y.shortest upOnTie).value) :
    x.magnitude = y.magnitude := by
  have hnear := near_shortest hx upOnTie
  rw [h] at hnear
  exact eq_of_near hnear (near_shortest hy upOnTie)

end Expectation.Binary64
