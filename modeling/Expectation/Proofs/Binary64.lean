import Expectation.Binary64

/-!
# Computing with numbers gives numbers

Numbers are rounded quotients: those that are read, those that integers are
compared by, and the products and quotients of such numbers.  The largest
magnitude that rounding can give is that of infinity, so none of them is a NaN;
and turning the sign does not change that.

## Main results

* `isNaN_ofQuotient`: a rounded quotient is not a NaN.
* `isNaN_neg`: a number is a NaN exactly when its opposite is one.
-/

namespace Expectation.Binary64

/-- No magnitude has a word above that of infinity. -/
theorem magnitudeBits_le (num den : Nat) :
    magnitudeBits num den ≤ 2047 * Nat.pow 2 52 := by
  unfold magnitudeBits
  split
  · exact Nat.zero_le _
  · exact Nat.min_le_right _ _

/-- Rounding a quotient never gives a NaN: with a full exponent field the word
is that of an infinity, and the fraction is zero. -/
theorem isNaN_ofQuotient (negative : Bool) (num den : Nat) :
    (ofQuotient negative num den).isNaN = false := by
  have hle : magnitudeBits num den ≤ 2047 * 4503599627370496 := magnitudeBits_le num den
  have hbits : (ofQuotient negative num den).bits.toNat =
      magnitudeBits num den + if negative then 9223372036854775808 else 0 := by
    have hword : magnitudeBits num den + (if negative then 9223372036854775808 else 0) <
        18446744073709551616 := by
      cases negative
      · rw [if_neg Bool.false_ne_true]
        omega
      · rw [if_pos rfl]
        omega
    exact Nat.mod_eq_of_lt hword
  have hfields : ∀ w : Nat,
      w = magnitudeBits num den + (if negative then 9223372036854775808 else 0) →
      w / 4503599627370496 % 2048 = 2047 → w % 4503599627370496 = 0 := by
    intro w hw hfull
    cases negative
    · rw [if_neg Bool.false_ne_true] at hw
      omega
    · rw [if_pos rfl] at hw
      omega
  have hfraction := hfields _ hbits
  simp only [isNaN, Bool.and_eq_false_iff, beq_eq_false_iff_ne, bne_eq_false_iff_eq]
  by_cases hfull : (ofQuotient negative num den).exponentField = 2047
  · exact .inr (hfraction hfull)
  · exact .inl hfull

/-- Turning the sign keeps the exponent and the fraction. -/
@[simp] theorem isNaN_neg (x : Binary64) : x.neg.isNaN = x.isNaN := by
  have hword : x.bits.toNat < 18446744073709551616 := x.bits.toNat_lt
  have hbits : x.neg.bits.toNat =
      (x.bits.toNat + 9223372036854775808) % 18446744073709551616 := by
    have h63 : Nat.pow 2 63 = 9223372036854775808 := by decide
    have h64 : Nat.pow 2 64 = 18446744073709551616 := by decide
    rw [neg, h63, h64]
    exact UInt64.toNat_ofNat_of_lt' (Nat.mod_lt _ (by decide))
  have hexponent : x.neg.exponentField = x.exponentField := by
    show x.neg.bits.toNat / 4503599627370496 % 2048 = x.bits.toNat / 4503599627370496 % 2048
    omega
  have hfraction : x.neg.fraction = x.fraction := by
    show x.neg.bits.toNat % 4503599627370496 = x.bits.toNat % 4503599627370496
    omega
  rw [isNaN, isNaN, hexponent, hfraction]

end Expectation.Binary64
