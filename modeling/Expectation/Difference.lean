import Expectation.Json.Value

/-!
# Differences between documents

A comparison lists every place where two documents do not agree. A difference
names the place, says what kind of disagreement it is, and shows both sides: a
value, a description where there is no value to show, or nothing.
-/

namespace Expectation

/-- The kinds of disagreement. -/
inductive DifferenceKind where
  /-- Both sides hold a value of one type, and the values differ. -/
  | changed
  /-- Only the actual document has something here. -/
  | added
  /-- Only the expected document has something here. -/
  | removed
  /-- The two sides hold values of different types. -/
  | typeMismatch
  /-- A matcher does not accept the actual value. -/
  | matcherFailed
  deriving DecidableEq, Repr

/-- The name of a kind in reports. -/
def DifferenceKind.label : DifferenceKind → String
  | .changed => "changed"
  | .added => "added"
  | .removed => "removed"
  | .typeMismatch => "type mismatch"
  | .matcherFailed => "matcher failed"

/-- One side of a difference. -/
inductive Side where
  /-- Nothing is there. -/
  | absent
  /-- A value; texts of a page are shown as strings. -/
  | value (v : Json.Value)
  /-- The description of a matcher, of an element, or of a collection. -/
  | description (text : String)

/-- A disagreement at a place. -/
structure Difference where
  path : String
  kind : DifferenceKind
  expected : Side
  actual : Side

namespace Difference

/-- The order of reports: by path. -/
def atOrBefore (a b : Difference) : Bool := !(b.path < a.path)

/-- Differences in the order of reports; those at one path stay in the order in
which they were found. -/
def sort (ds : List Difference) : List Difference := ds.mergeSort atOrBefore

end Difference

end Expectation
