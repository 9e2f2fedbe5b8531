import Expectation.Binary64

/-!
# The shortest decimal of a binary64 number

Many decimals round to the same number; a printed number is the one with the
fewest digits, and of several with as few digits the one nearest to the exact
value. The search is exact: the reals that round to a number form an interval
(its ends included when the mantissa is even), and on the grid of decimals
with `n` digits only the two neighbours of the value can lie in it when any
grid point does. The first `n` that hits gives the digits, and seventeen
digits always hit.

How digits are written (where positional notation ends, whether an integral
value keeps `.0`, how the exponent looks) belongs to the document format, and
is a `Style`.
-/

namespace Expectation.Binary64

/-- A positive decimal `digits · 10 ^ scale`. -/
structure Decimal where
  digits : Nat
  scale : Int
  deriving DecidableEq, Repr

/-! ## The interval of a number -/

/-- The reals that round to a finite number other than zero, in quarters of
its unit in the last place: the low end, the number itself, the high end. Below
a power of two the numbers lie twice as close. -/
def quarters (x : Binary64) : Nat × Nat × Nat :=
  let m := x.mantissa
  let low := if x.fraction = 0 && 1 < x.exponentField then 4 * m - 1 else 4 * m - 2
  (low, 4 * m, 4 * m + 2)

/-- Whether the decimal `c · 10 ^ p` lies in the interval of the number. -/
def admits (x : Binary64) (c : Nat) (p : Int) : Bool :=
  let (low, _, high) := x.quarters
  let e := x.exponent - 2
  let c' := c * Nat.pow 10 p.toNat * Nat.pow 2 (-e).toNat
  let unit := Nat.pow 10 (-p).toNat * Nat.pow 2 e.toNat
  if x.mantissa % 2 = 0 then low * unit ≤ c' && c' ≤ high * unit
  else low * unit < c' && c' < high * unit

/-! ## The decimal grid -/

/-- The least `j ≤ fuel` with `den ≤ num · 10 ^ j`, counted from `start`. -/
def leadingZeros : Nat → Nat → Nat → Nat → Nat
  | 0, start, _, _ => start
  | fuel + 1, start, num, den =>
    if den ≤ num then start else leadingZeros fuel (start + 1) (num * 10) den

/-- The exponent `k` with `10 ^ k ≤ num / den < 10 ^ (k + 1)`. -/
def decimalExponent (num den : Nat) : Int :=
  if den ≤ num then ((Nat.toDigits 10 (num / den)).length : Int) - 1
  else -(leadingZeros 400 0 num den : Nat)

/-- Of the two neighbours of the value on the grid of step `10 ^ p` the one in
the interval of the number, or the nearer one if both are; `upOnTie` says where
a value half-way between them goes. -/
def gridPoint? (x : Binary64) (upOnTie : Nat → Bool) (p : Int) : Option Nat :=
  let n := x.num * Nat.pow 10 (-p).toNat
  let d := x.den * Nat.pow 10 p.toNat
  let q := n / d
  let r := n % d
  let below := admits x q p
  let above := admits x (q + 1) p
  if below && above then
    if 2 * r < d then some q
    else if d < 2 * r then some (q + 1)
    else if upOnTie q then some (q + 1) else some q
  else if below then some q
  else if above then some (q + 1)
  else none

/-- The first grid that hits, from `count` digits on. -/
def searchDigits (x : Binary64) (upOnTie : Nat → Bool) (k : Int) : Nat → Nat → Decimal
  | 0, _ => ⟨x.num / x.den, 0⟩
  | fuel + 1, count =>
    let p := k - (count : Int) + 1
    match gridPoint? x upOnTie p with
    | some c => ⟨c, p⟩
    | none => searchDigits x upOnTie k fuel (count + 1)

/-- A decimal without trailing zeros in its digits. -/
def Decimal.reduced (d : Decimal) : Decimal :=
  go 20 d.digits d.scale
where
  /-- Moves at most `fuel` zeros from the digits to the scale. -/
  go : Nat → Nat → Int → Decimal
    | 0, n, s => ⟨n, s⟩
    | fuel + 1, n, s => if n % 10 = 0 && n != 0 then go fuel (n / 10) (s + 1) else ⟨n, s⟩

/-- The shortest decimal that rounds to a finite number other than zero. -/
def shortest (x : Binary64) (upOnTie : Nat → Bool) : Decimal :=
  (searchDigits x upOnTie (decimalExponent x.num x.den) 17 1).reduced

/-! ## Writing a decimal -/

/-- How a number is written: `positional k` says whether a number with `k`
digits before its point is written without an exponent, `keepPoint` whether an
integral value ends in `.0`, and `upOnTie` which neighbour wins a tie. -/
structure Style where
  positional : Int → Bool
  keepPoint : Bool
  upOnTie : Nat → Bool

/-- The text of a positive decimal. -/
def Decimal.render (style : Style) (d : Decimal) : String :=
  let digits := Nat.toDigits 10 d.digits
  let count := digits.length
  let before : Int := count + d.scale
  let zeros (n : Int) := List.replicate n.toNat '0'
  String.ofList <|
    if style.positional before then
      if 0 ≤ d.scale then
        digits ++ zeros d.scale ++ (if style.keepPoint then ['.', '0'] else [])
      else if 0 < before then
        digits.take before.toNat ++ '.' :: digits.drop before.toNat
      else
        '0' :: '.' :: zeros (-before) ++ digits
    else
      digits.take 1 ++ (if count = 1 then [] else '.' :: digits.drop 1) ++
        'e' :: (if 0 < before then ['+'] else []) ++ (toString (before - 1)).toList

/-- The text of a finite number. -/
def render (style : Style) (x : Binary64) : String :=
  (if x.negative then "-" else "") ++
    (if x.isZero then (if style.keepPoint then "0.0" else "0")
     else (x.shortest style.upOnTie).render style)

end Expectation.Binary64
