import Expectation.Unicode.Ranges

/-!
# Joining, meeting and completing sets of code points

A set of code points given by ranges in any order has one *normal form*: the
ranges ascend and no two of them overlap or touch, so two sets with the same
members have the same normal form. On normal forms the complement is made of
the gaps and the intersection of the common parts of ranges.

The code points from D800 to DFFF are no characters. They are cut out of a
range by `scalarPart`.
-/

namespace Expectation.Unicode

/-- The last code point. -/
def lastCodePoint : Nat := 0x10FFFF

/-- The ranges behind a first one, which takes in all that it reaches. -/
def absorbRanges (first last : Nat) : List (Nat × Nat) → List (Nat × Nat)
  | [] => [(first, last)]
  | (a, b) :: rest =>
    if a ≤ last + 1 then absorbRanges first (max last b) rest
    else (first, last) :: absorbRanges a b rest

/-- The ranges, ascending by their first members, with those joined that overlap
or touch. -/
def joinRanges : List (Nat × Nat) → List (Nat × Nat)
  | [] => []
  | (first, last) :: rest => absorbRanges first last rest

/-- The normal form of the set with the given ranges. -/
def normalRanges (ranges : List (Nat × Nat)) : List (Nat × Nat) :=
  joinRanges (ranges.mergeSort fun r s => r.1 ≤ s.1)

/-- The part of a range that holds characters. -/
def scalarPart (range : Nat × Nat) : List (Nat × Nat) :=
  let (first, last) := range
  (if first ≤ 0xD7FF then [(first, min last 0xD7FF)] else []) ++
    (if 0xE000 ≤ last then [(max first 0xE000, last)] else [])

/-- The gaps between ascending ranges, from a code point on. -/
def gapsFrom (start : Nat) : List (Nat × Nat) → List (Nat × Nat)
  | [] => if start ≤ lastCodePoint then [(start, lastCodePoint)] else []
  | (first, last) :: rest =>
    (if start < first then [(start, first - 1)] else []) ++ gapsFrom (last + 1) rest

/-- The common parts of one range and ascending ranges. -/
def clipRanges (first last : Nat) (ranges : List (Nat × Nat)) : List (Nat × Nat) :=
  ((ranges.dropWhile (·.2 < first)).takeWhile (·.1 ≤ last)).map fun r =>
    (max first r.1, min last r.2)

/-- The common parts of two lists of ascending ranges. -/
def commonRanges (left right : List (Nat × Nat)) : List (Nat × Nat) :=
  left.flatMap fun (first, last) => clipRanges first last right

example : joinRanges [(1, 3), (4, 4), (6, 9), (7, 8)] = [(1, 4), (6, 9)] := by decide

example : gapsFrom 0 [(0, 9), (11, 0x10FFFE)] = [(10, 10), (0x10FFFF, 0x10FFFF)] := by decide

example : commonRanges [(1, 5), (8, 12)] [(3, 9), (12, 20)] = [(3, 5), (8, 9), (12, 12)] := by
  decide

end Expectation.Unicode
