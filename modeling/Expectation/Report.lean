import Expectation.Difference
import Expectation.DocumentError
import Expectation.Json.Printing
import Expectation.LineDiff

/-!
# Reports

A failed comparison is reported in two ways: a listing of the differences, path
by path with both sides, and an inline diff of the indented texts of the two
documents, with `- ` before the lines of the expected one and `+ ` before those
of the actual one. Whether lines are coloured is the caller's decision.

Values in a listing are cut to eighty characters.
-/

namespace Expectation.Report

/-! ## Colours -/

/-- Whether output is coloured. -/
structure Palette where
  colors : Bool := false
  deriving DecidableEq, Repr

/-- A text between a colour's control sequence and the one that ends it. -/
def Palette.paint (p : Palette) (code text : String) : String :=
  if p.colors then "\x1b[" ++ code ++ "m" ++ text ++ "\x1b[0m" else text

/-- The colour of lines that only the expected document has. -/
def Palette.red (p : Palette) (text : String) : String := p.paint "31" text

/-- The colour of lines that only the actual document has. -/
def Palette.green (p : Palette) (text : String) : String := p.paint "32" text

/-! ## Values -/

/-- The longest text of a value. -/
def maxLength : Nat := 80

/-- A text cut to the greatest length, with three points if it was longer. -/
def truncate (s : String) : String :=
  let cs := s.toList
  if cs.length ≤ maxLength then s else String.ofList (cs.take (maxLength - 3) ++ ['.', '.', '.'])

/-- The text of a floating-point number: without a point if it is integral and
below `10 ^ 15`. -/
def floatText (x : Binary64) : String :=
  if x.isIntegral && x.toInt.natAbs < Nat.pow 10 15 then toString x.toInt
  else Json.Value.plainFloat x

/-- The text of a value. -/
def valueText : Json.Value → String
  | .float x => floatText x
  | .string s => Json.quote s
  | .matcher m => m.describe
  | .array items => truncate (Json.Value.compact (.array items))
  | .object members => truncate (Json.Value.compact (.object members))
  | v => Json.scalarText v

/-- The text of a side of a difference. -/
def sideText : Side → String
  | .absent => "(missing)"
  | .description text => text
  | .value v => valueText v

/-- The text of a side in the report on documents of a format. The texts of a
page may be long and are cut. -/
def sideTextFor (format : Format) (side : Side) : String :=
  match format, side with
  | .html, .value (.string s) => truncate (Json.quote s)
  | _, side => sideText side

/-- The text of a side with the type of its value. -/
def typedSideText (format : Format) : Side → String
  | .value v => sideTextFor format (.value v) ++ " (" ++ v.typeName ++ ")"
  | side => sideTextFor format side

/-! ## The listing -/

/-- The entry of a difference. -/
def entry (format : Format) (d : Difference) : String :=
  let side := if d.kind = .typeMismatch then typedSideText format else sideTextFor format
  "\n  " ++ d.path ++ "\n    expected: " ++ side d.expected ++ "\n    actual:   " ++
    side d.actual ++ "\n"

/-- The listing of differences; there is none when nothing differs. -/
def listing (format : Format) (ds : List Difference) : String :=
  match ds with
  | [] => ""
  | [d] => format.label ++ " mismatch at 1 path:\n" ++ entry format d
  | ds =>
    format.label ++ " mismatch at " ++ toString ds.length ++ " paths:\n" ++
      String.join (ds.map (entry format))

/-! ## The inline diff -/

/-- A line of an inline diff. -/
def lineText (p : Palette) : LineEdit × String → String
  | (.keep, text) => text
  | (.delete, text) => p.red ("- " ++ text)
  | (.insert, text) => p.green ("+ " ++ text)

/-- The lines of an edit. -/
def editText (p : Palette) (edit : List (LineEdit × String)) : String :=
  String.join (edit.map fun line => lineText p line ++ "\n")

/-- The inline diff of two texts. -/
def inlineDiff (p : Palette) (expected actual : String) : String :=
  editText p (LineDiff.edit (LineDiff.lines expected) (LineDiff.lines actual))

end Expectation.Report
