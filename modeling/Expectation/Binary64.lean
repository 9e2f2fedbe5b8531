/-!
# Binary64 numbers as exact quotients

A JSON number with a fraction or an exponent is kept as an IEEE 754 binary64
word. The word itself is the value: `Binary64.bits` is all there is, and every
operation reads the fields of the word and computes with natural numbers, so
that a statement about a number is a statement about `Nat`.

A finite number other than zero is `mantissa · 2 ^ exponent`, that is the
quotient `num / den`. `ofQuotient` goes the other way: it rounds any quotient
to the nearest number, and of two equally near ones takes the even one. The
packed form needs no case for the carry out of the mantissa, because the
fields of neighbouring words are neighbouring numbers.

## Main results

* `numEq_refl`: a number that is not a NaN is equal to itself.
* `numEq_comm`, `numEq_trans`: the numeric equality of words is symmetric and
  transitive, NaNs included.
-/

namespace Expectation

/-- An IEEE 754 binary64 number, given by its word. -/
structure Binary64 where
  bits : UInt64
  deriving DecidableEq, Repr, Inhabited

namespace Binary64

/-! ## The fields of a word -/

/-- The sign bit. -/
def negative (x : Binary64) : Bool :=
  Nat.pow 2 63 ≤ x.bits.toNat

/-- The eleven bits of the exponent. -/
def exponentField (x : Binary64) : Nat :=
  x.bits.toNat / Nat.pow 2 52 % Nat.pow 2 11

/-- The fifty-two bits below the exponent. -/
def fraction (x : Binary64) : Nat :=
  x.bits.toNat % Nat.pow 2 52

/-- Not a number: the exponent field is full and the fraction is not zero. -/
def isNaN (x : Binary64) : Bool :=
  x.exponentField == 2047 && x.fraction != 0

/-- A number that is neither a NaN nor infinite. -/
def isFinite (x : Binary64) : Bool :=
  x.exponentField != 2047

/-- One of the two zeros. -/
def isZero (x : Binary64) : Bool :=
  x.exponentField == 0 && x.fraction == 0

/-- The integer factor of a finite number, with the hidden bit of a normal
number put back. -/
def mantissa (x : Binary64) : Nat :=
  if x.exponentField = 0 then x.fraction else x.fraction + Nat.pow 2 52

/-- The power of two of a finite number. -/
def exponent (x : Binary64) : Int :=
  if x.exponentField = 0 then -1074 else (x.exponentField : Int) - 1075

/-- Numerator of the magnitude of a finite number. -/
def num (x : Binary64) : Nat :=
  x.mantissa * Nat.pow 2 x.exponent.toNat

/-- Denominator of the magnitude of a finite number. -/
def den (x : Binary64) : Nat :=
  Nat.pow 2 (-x.exponent).toNat

/-- A finite number without a fractional part. -/
def isIntegral (x : Binary64) : Bool :=
  x.isFinite && x.num % x.den == 0

/-- The integer that a finite number without fractional part is. -/
def toInt (x : Binary64) : Int :=
  if x.negative then -((x.num / x.den : Nat) : Int) else (x.num / x.den : Nat)

/-! ## Equality of numbers -/

/-- Equality as numbers: the two zeros are equal and a NaN equals nothing. -/
def numEq (x y : Binary64) : Bool :=
  !x.isNaN && !y.isNaN && (x == y || (x.isZero && y.isZero))

theorem numEq_refl {x : Binary64} (h : x.isNaN = false) : numEq x x = true := by
  simp [numEq, h]

theorem numEq_comm (x y : Binary64) : numEq x y = numEq y x := by
  have h : (x == y) = (y == x) := BEq.comm
  unfold numEq
  rw [h]
  cases x.isNaN <;> cases y.isNaN <;> simp [Bool.and_comm]

theorem numEq_trans {x y z : Binary64} (hxy : numEq x y = true) (hyz : numEq y z = true) :
    numEq x z = true := by
  simp only [numEq, Bool.and_eq_true, Bool.or_eq_true, beq_iff_eq] at *
  obtain ⟨⟨hx, -⟩, h₁⟩ := hxy
  obtain ⟨⟨-, hz⟩, h₂⟩ := hyz
  refine ⟨⟨hx, hz⟩, ?_⟩
  rcases h₁ with rfl | ⟨hx0, hy0⟩
  · exact h₂
  · rcases h₂ with rfl | ⟨-, hz0⟩
    · exact .inr ⟨hx0, hy0⟩
    · exact .inr ⟨hx0, hz0⟩

/-! ## Rounding a quotient -/

/-- A quotient of natural numbers rounded to the nearest integer, a half going
to the even neighbour. -/
def roundHalfEven (num den : Nat) : Nat :=
  let q := num / den
  let r := num % den
  if den < 2 * r || (2 * r == den && q % 2 == 1) then q + 1 else q

/-- The exponent `k` with `2 ^ k ≤ num / den < 2 ^ (k + 1)`, for positive
`num` and `den`. -/
def binaryExponent (num den : Nat) : Int :=
  let l : Int := (num.log2 : Int) - den.log2
  if den * Nat.pow 2 l.toNat ≤ num * Nat.pow 2 (-l).toNat then l else l - 1

/-- The word of the magnitude nearest to `num / den`, a half going to the word
with an even mantissa. The exponent field and the mantissa are added and not
joined, so a mantissa that rounds up to the next power of two carries into the
field, and one too large for the format becomes infinity. -/
def magnitudeBits (num den : Nat) : Nat :=
  if num = 0 then 0
  else
    let e := max (binaryExponent num den - 52) (-1074)
    let m := roundHalfEven (num * Nat.pow 2 (-e).toNat) (den * Nat.pow 2 e.toNat)
    min ((e + 1074).toNat * Nat.pow 2 52 + m) (2047 * Nat.pow 2 52)

/-- The number nearest to a quotient with a sign. -/
def ofQuotient (negative : Bool) (num den : Nat) : Binary64 :=
  ⟨UInt64.ofNat (magnitudeBits num den + if negative then Nat.pow 2 63 else 0)⟩

/-- The number nearest to an integer. -/
def ofInt (i : Int) : Binary64 :=
  ofQuotient (i < 0) i.natAbs 1

/-- The number nearest to a natural number. -/
def ofNat (n : Nat) : Binary64 :=
  ofQuotient false n 1

/-- The number nearest to `digits · 10 ^ scale`. -/
def ofDecimal (negative : Bool) (digits : Nat) (scale : Int) : Binary64 :=
  ofQuotient negative (digits * Nat.pow 10 scale.toNat) (Nat.pow 10 (-scale).toNat)

/-- The product of two finite numbers, rounded. -/
def mul (x y : Binary64) : Binary64 :=
  ofQuotient (x.negative != y.negative) (x.num * y.num) (x.den * y.den)

/-- The quotient of two finite numbers, the second not zero, rounded. -/
def div (x y : Binary64) : Binary64 :=
  ofQuotient (x.negative != y.negative) (x.num * y.den) (x.den * y.num)

/-- The number with its sign turned. -/
def neg (x : Binary64) : Binary64 :=
  ⟨UInt64.ofNat ((x.bits.toNat + Nat.pow 2 63) % Nat.pow 2 64)⟩

example : ofInt 1 = ⟨0x3FF0000000000000⟩ := by decide
example : ofQuotient true 1 10 = ⟨0xBFB999999999999A⟩ := by decide +kernel
example : ofNat (Nat.pow 2 53 + 1) = ofNat (Nat.pow 2 53) := by decide +kernel
example : (ofDecimal false 1 400).isFinite = false := by decide +kernel

end Binary64

end Expectation
