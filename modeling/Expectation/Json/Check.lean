import Expectation.Json.Comparison
import Expectation.Json.Expected
import Expectation.Verdict

/-!
# Checking JSON documents

The whole way from two texts to a verdict: both documents are read, the
expected one first, and their trees are compared from the root on.
-/

namespace Expectation.Json

/-- The inline diff of two trees. -/
def inlineDiff (p : Report.Palette) (expected actual : Value) : String :=
  Report.inlineDiff p expected.pretty actual.pretty

/-- The verdict on two trees. -/
def judge (o : Options) (p : Report.Palette) (expected actual : Value) : Verdict :=
  .ofDifferences .json (compare o expected rootPath actual) fun _ => inlineDiff p expected actual

/-- Compares an actual document with the text of an expected one. -/
def check (expectedText : String) (actual : List UInt8) (o : Options) (p : Report.Palette) :
    Except DocumentError Verdict :=
  match readExpected expectedText with
  | .error e => .error e
  | .ok expected => (readActual actual).map (judge o p expected.root)

/-- Compares the text of an actual document with that of an expected one. -/
def checkText (expectedText actualText : String) (o : Options) (p : Report.Palette) :
    Except DocumentError Verdict :=
  match readExpected expectedText with
  | .error e => .error e
  | .ok expected => (readActualText actualText).map (judge o p expected.root)

end Expectation.Json
