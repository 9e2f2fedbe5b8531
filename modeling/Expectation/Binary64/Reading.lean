import Expectation.Binary64

/-!
# Reading a decimal text

The text of a number as it may stand in a page: an optional sign, digits with
an optional point (digits on at least one side of it), and an optional exponent
with an optional sign. The value is the nearest binary64 number, so a text too
large for the format reads as infinity; the names of infinity and of NaN are
not read, because no reader of such a text accepts them.
-/

namespace Expectation.Binary64

/-- The number that decimal digits spell. -/
def digitsValue (ds : List Char) : Nat :=
  ds.foldl (fun n d => 10 * n + (d.toNat - 48)) 0

/-- A leading sign, and whether it is a minus. -/
def splitSign : List Char → Bool × List Char
  | '-' :: cs => (true, cs)
  | '+' :: cs => (false, cs)
  | cs => (false, cs)

/-- The exponent at the end of a number: nothing, or a marked integer. -/
def exponent? : List Char → Option Int
  | [] => some 0
  | c :: cs =>
    if c = 'e' || c = 'E' then
      let (negative, ds) := splitSign cs
      if ds.isEmpty || !ds.all Char.isDigit then none
      else some (if negative then -(digitsValue ds : Int) else digitsValue ds)
    else none

/-- The number nearest to `digits · 10 ^ scale`, for any scale: outside the
range that the format covers the answer is known without the power of ten. -/
def ofScaled (negative : Bool) (digits : Nat) (scale : Int) : Binary64 :=
  if digits = 0 then ofQuotient negative 0 1
  else if 400 < scale then ofQuotient negative (Nat.pow 2 1024) 1
  else if scale + ((digits.log2 : Nat) : Int) < -400 then ofQuotient negative 0 1
  else ofDecimal negative digits scale

/-- The number that a decimal text spells. -/
def ofText? (text : List Char) : Option Binary64 :=
  let (negative, body) := splitSign text
  let whole := body.takeWhile Char.isDigit
  let rest := body.dropWhile Char.isDigit
  let (part, rest) := match rest with
    | '.' :: rest => (rest.takeWhile Char.isDigit, rest.dropWhile Char.isDigit)
    | rest => ([], rest)
  if whole.isEmpty && part.isEmpty then none
  else (exponent? rest).map fun e =>
    ofScaled negative (digitsValue (whole ++ part)) (e - part.length)

example : ofText? "-12.50e1".toList = some (ofInt (-125)) := by decide +kernel
example : ofText? ".".toList = none := by decide
example : ofText? "1.".toList = some (ofInt 1) := by decide +kernel

end Expectation.Binary64
