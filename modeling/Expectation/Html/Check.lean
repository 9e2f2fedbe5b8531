import Expectation.Html.Comparison
import Expectation.Html.Expected
import Expectation.Html.Printing
import Expectation.Verdict

/-!
# Checking pages

The whole way from two texts to a verdict: both pages are read, the expected
one first, and their trees are compared.
-/

namespace Expectation.Html

/-- The inline diff of two pages. -/
def inlineDiff (p : Report.Palette) (expected actual : Node) : String :=
  Report.inlineDiff p expected.pretty actual.pretty

/-- The verdict on two pages. -/
def judge (o : Options) (p : Report.Palette) (expected actual : Node) : Verdict :=
  .ofDifferences .html (compare o expected actual) fun _ => inlineDiff p expected actual

/-- Compares an actual page with the text of an expected one. -/
def check (expectedText : String) (actual : List UInt8) (o : Options) (p : Report.Palette) :
    Except DocumentError Verdict :=
  match readExpected expectedText with
  | .error e => .error e
  | .ok expected => (readActual actual).map (judge o p expected.root)

/-- Compares the text of an actual page with that of an expected one. -/
def checkText (expectedText actualText : String) (o : Options) (p : Report.Palette) :
    Except DocumentError Verdict :=
  match readExpected expectedText with
  | .error e => .error e
  | .ok expected => (readActualText actualText).map (judge o p expected.root)

end Expectation.Html
