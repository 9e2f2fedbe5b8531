/-!
# Sets of code points as lists of ranges

A property of characters is stored as the ranges of code points that have it.
The ranges of one property follow each other in lines of blank-separated items,
one per range: the distance from the end of the range before, and after a point
the distance from the first to the last code point when the range has more than
one. Numbers are written in base thirty-six.

`Property.ranges` reads the lines into an array, in which `inRanges` finds a
character by binary search.
-/

namespace Expectation.Unicode

/-- A property: the names it goes by (lower case, without blanks, hyphens and
underscores) and the lines of its ranges. -/
structure Property where
  names : List String
  lines : List String

/-- The value of a digit in base thirty-six. -/
def digit36 (c : Char) : Nat :=
  if c.isDigit then c.toNat - '0'.toNat else c.toNat - 'a'.toNat + 10

/-- Reads the items of a text of ranges: `last` is the end of the range before,
`gap` the distance already read, `number` the number being read. -/
def readRanges : List Char → Nat → Option Nat → Nat → List (Nat × Nat)
  | [], last, none, number => [(last + number, last + number)]
  | [], last, some gap, number => [(last + gap, last + gap + number)]
  | c :: cs, last, gap, number =>
    if c = '.' then readRanges cs last (some number) 0
    else if c = ' ' then
      match gap with
      | none => (last + number, last + number) :: readRanges cs (last + number) none 0
      | some g =>
        (last + g, last + g + number) :: readRanges cs (last + g + number) none 0
    else readRanges cs last gap (36 * number + digit36 c)

/-- The ranges of a property, in ascending order. -/
def Property.ranges (p : Property) : Array (Nat × Nat) :=
  (readRanges (" ".intercalate p.lines).toList 0 none 0).toArray

/-- Whether `n` lies in one of the ascending ranges between the places `low`
and `high`; each step halves the distance between the places. -/
def searchRanges (ranges : Array (Nat × Nat)) (n : Nat) : Nat → Nat → Nat → Bool
  | 0, _, _ => false
  | fuel + 1, low, high =>
    if high ≤ low then false
    else
      let middle := (low + high) / 2
      match ranges[middle]? with
      | none => false
      | some (first, last) =>
        if n < first then searchRanges ranges n fuel low middle
        else if last < n then searchRanges ranges n fuel (middle + 1) high
        else true

/-- Whether a character lies in one of the ascending ranges. -/
def inRanges (ranges : Array (Nat × Nat)) (c : Char) : Bool :=
  searchRanges ranges c.toNat (ranges.size + 1) 0 ranges.size

/-- The property of a list that goes by a name. -/
def findProperty (table : List Property) (name : String) : Option Property :=
  table.find? fun p => p.names.contains name

/-- The ranges of the property that goes by a name; none if there is no such
property. -/
def rangesNamed (table : List Property) (name : String) : Array (Nat × Nat) :=
  ((findProperty table name).map Property.ranges).getD #[]

example : readRanges "1t.p 7.p".toList 0 none 0 = [(65, 90), (97, 122)] := by decide

end Expectation.Unicode
