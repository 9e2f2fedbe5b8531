import Expectation.Binary64.Shortest
import Expectation.Json.Value

/-!
# Writing JSON texts

A tree is written in two layouts: on one line without blanks, and over several
lines with two blanks of indentation per level, where empty arrays and objects
stay on one line. Both write the same scalars. A matcher is written as the
string that describes it.

The third form, `Value.summary`, is for a reader who wants one word about a
value: scalars are written plainly, a string without quotation marks, and a
container only as a pair of brackets.
-/

namespace Expectation.Json

/-- Floating-point numbers keep a point or an exponent. They are written
without exponent from `1e-5` up to sixteen digits before the point; a positive
exponent has a sign. -/
def floatStyle : Binary64.Style :=
  ⟨fun k => -5 < k && k ≤ 16, true, fun n => n % 2 = 1⟩

/-- The text of a floating-point number; there is none for infinity and NaN. -/
def floatText (x : Binary64) : String :=
  if x.isFinite then x.render floatStyle else "null"

/-- A value without parts: its text. -/
def scalarText : Value → String
  | .null => "null"
  | .bool b => if b then "true" else "false"
  | .int i => toString i.toInt
  | .nat n => toString n.toNat
  | .float x => floatText x
  | .string s => quote s
  | .matcher m => quote m.describe
  | .array _ => "[]"
  | .object _ => "\x7b\x7d"

namespace Value

mutual

/-- The tree on one line. -/
def compact : Value → String
  | .array items => "[" ++ ",".intercalate (compactItems items) ++ "]"
  | .object members => "\x7b" ++ ",".intercalate (compactMembers members) ++ "\x7d"
  | v => scalarText v

def compactItems : List Value → List String
  | [] => []
  | v :: vs => compact v :: compactItems vs

def compactMembers : List (String × Value) → List String
  | [] => []
  | (k, v) :: ms => (quote k ++ ":" ++ compact v) :: compactMembers ms

end

/-- The front of a line at a depth. -/
def indent (depth : Nat) : String := String.ofList (List.replicate (2 * depth) ' ')

/-- Lines in brackets, one item a line, or the brackets alone. -/
def block (opening closing : String) (depth : Nat) (lines : List String) : String :=
  if lines.isEmpty then opening ++ closing
  else
    opening ++ "\n" ++ ",\n".intercalate (lines.map (indent (depth + 1) ++ ·)) ++ "\n" ++
      indent depth ++ closing

mutual

/-- The tree over several lines, at a depth. -/
def prettyAt (depth : Nat) : Value → String
  | .array items => block "[" "]" depth (prettyItems (depth + 1) items)
  | .object members => block "\x7b" "\x7d" depth (prettyMembers (depth + 1) members)
  | v => scalarText v

def prettyItems (depth : Nat) : List Value → List String
  | [] => []
  | v :: vs => prettyAt depth v :: prettyItems depth vs

def prettyMembers (depth : Nat) : List (String × Value) → List String
  | [] => []
  | (k, v) :: ms => (quote k ++ ": " ++ prettyAt depth v) :: prettyMembers depth ms

end

/-- The tree over several lines. -/
def pretty (v : Value) : String := v.prettyAt 0

/-- A number in running text has no exponent, and an integral value no point. -/
def plainStyle : Binary64.Style := ⟨fun _ => true, false, fun _ => true⟩

/-- A floating-point number in running text. -/
def plainFloat (x : Binary64) : String :=
  if x.isFinite then x.render plainStyle
  else if x.isNaN then "NaN"
  else if x.negative then "-inf" else "inf"

/-- One word about a value. -/
def summary : Value → String
  | .float x => plainFloat x
  | .string s => s
  | .matcher m => m.describe
  | .array _ => "[...]"
  | .object _ => "\x7b...\x7d"
  | v => scalarText v

end Value

end Expectation.Json
