import Expectation.Report

/-!
# The outcome of a comparison

A verdict holds the differences in the order of reports, and two renderings of
them when there are any: the inline diff and the listing.
-/

namespace Expectation

/-- The outcome of a comparison. -/
structure Verdict where
  /-- The differences, sorted by path. -/
  differences : List Difference
  /-- The inline diff of the two documents, unless they agree. -/
  inline : Option String
  /-- The listing of the differences, empty when the documents agree. -/
  summary : String

namespace Verdict

/-- Whether the documents agree. -/
def isMatch (v : Verdict) : Bool := v.differences.isEmpty

/-- The verdict on documents of a format with the given differences; the inline
diff is only made when there are any. -/
def ofDifferences (format : Format) (found : List Difference) (inlineDiff : Unit → String) :
    Verdict :=
  match Difference.sort found with
  | [] => ⟨[], none, ""⟩
  | ds => ⟨ds, some (inlineDiff ()), Report.listing format ds⟩

end Verdict

end Expectation
