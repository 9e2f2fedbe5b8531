import Expectation.Json.Printing
import Expectation.Placeholder

/-!
# Bringing an expected JSON document up to date

The new expected document is the actual one with the matchers of the old one
carried over: a matcher stays wherever the actual document still has a value in
its place.

Its text is the indented text of the tree in which every matcher is written as
a placeholder with its expression verbatim, so that a pattern keeps its
backslashes when the file is read back. The expressions are put in after the
tree has been written: each matcher is first written as a sentinel, and then,
one after the other, the first occurrence of each sentinel is replaced.
-/

namespace Expectation.Json

mutual

/-- The actual tree with the matchers of the expected one carried over. -/
def carryMatchers : Value → Value → Value
  | .matcher m, _ => .matcher m
  | .object members, actual =>
    match actual with
    | .object others => .object (others.map fun (k, w) => (k, carryAt k members w))
    | other => other
  | .array items, actual =>
    match actual with
    | .array others => .array (carryItems items others)
    | other => other
  | _, actual => actual

/-- The value of the actual member at a key, with the matchers carried over
from the expected member if there is one. -/
def carryAt (key : String) : List (String × Value) → Value → Value
  | [], w => w
  | (k, v) :: ms, w => if k = key then carryMatchers v w else carryAt key ms w

/-- The actual items with the matchers of the expected ones carried over. -/
def carryItems : List Value → List Value → List Value
  | _, [] => []
  | [], ws => ws
  | v :: vs, w :: ws => carryMatchers v w :: carryItems vs ws

end

/-! ## The text of an expected document -/

mutual

/-- The tree with a sentinel in place of each matcher, counted from the number
of expressions already collected, and all expressions collected. -/
def withSentinels (collected : List String) : Value → Value × List String
  | .matcher m =>
    (.string (String.ofList (Placeholder.sentinel collected.length)),
      collected ++ [m.expression])
  | .array items =>
    let (items, collected) := itemsWithSentinels collected items
    (.array items, collected)
  | .object members =>
    let (members, collected) := membersWithSentinels collected members
    (.object members, collected)
  | v => (v, collected)

def itemsWithSentinels (collected : List String) : List Value → List Value × List String
  | [] => ([], collected)
  | v :: vs =>
    let (v, collected) := withSentinels collected v
    let (vs, collected) := itemsWithSentinels collected vs
    (v :: vs, collected)

def membersWithSentinels (collected : List String) :
    List (String × Value) → List (String × Value) × List String
  | [] => ([], collected)
  | (k, v) :: ms =>
    let (v, collected) := withSentinels collected v
    let (ms, collected) := membersWithSentinels collected ms
    ((k, v) :: ms, collected)

end

/-- Replaces the first occurrence of a text. -/
def replaceFirst (old new : List Char) : List Char → List Char
  | [] => if old.isEmpty then new else []
  | c :: cs =>
    if old.isPrefixOf (c :: cs) then new ++ (c :: cs).drop old.length
    else c :: replaceFirst old new cs

/-- Replaces the first occurrence of each sentinel, counted from `index`, by
the placeholder with its expression. -/
def fillSentinels (index : Nat) : List String → List Char → List Char
  | [], text => text
  | e :: es, text =>
    fillSentinels (index + 1) es
      (replaceFirst (Placeholder.sentinel index) (Matcher.brace e).toList text)

/-- The text of a tree in which matchers are written as placeholders. -/
def templateText (v : Value) : String :=
  let (v, expressions) := withSentinels [] v
  String.ofList (fillSentinels 0 expressions v.pretty.toList)

/-- The text of an expected document that is seen for the first time. -/
def initialText (actual : Value) : String :=
  templateText actual ++ "\n"

/-- The text of an expected document brought up to date. -/
def updatedText (expected actual : Value) : String :=
  templateText (carryMatchers expected actual) ++ "\n"

end Expectation.Json
