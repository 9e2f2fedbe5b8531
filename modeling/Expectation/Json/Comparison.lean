import Expectation.Difference
import Expectation.Json.Options
import Expectation.Pairing

/-!
# Comparing JSON trees

The comparison goes down both trees at once, guided by the expected one, and
lists every difference it meets. A matcher is asked whether it accepts the
actual value; `null` on one side only counts as something added or removed;
numbers are compared by value, whatever form they have; and objects and arrays
are compared part by part. Nothing is reported at a path that the options leave
out, nor below one.

Arrays whose order does not count are compared by trial: each expected item
becomes a function that lists the differences to an actual item, and the items
are paired first fit by the functions that list none.
-/

namespace Expectation.Json

/-- Both values are shown, of one type. -/
def changed (path : String) (expected actual : Value) : Difference :=
  ⟨path, .changed, .value expected, .value actual⟩

/-- Both values are shown, of two types. -/
def mismatched (path : String) (expected actual : Value) : Difference :=
  ⟨path, .typeMismatch, .value expected, .value actual⟩

/-- Only the expected document has a value here. -/
def removed (path : String) (expected : Value) : Difference :=
  ⟨path, .removed, .value expected, .absent⟩

/-- Only the actual document has a value here. -/
def added (path : String) (actual : Value) : Difference :=
  ⟨path, .added, .absent, .value actual⟩

/-- What a matcher has against a value. -/
def checkMatcher (path : String) (m : Matcher) (actual : Value) : List Difference :=
  if m.isIgnore || m.accepts (some actual) then []
  else [⟨path, .matcherFailed, .description m.describe, .value actual⟩]

/-- The differences between two numbers, or between a number and another value. -/
def compareNumber (path : String) (expected actual : Value) : List Difference :=
  match expected.number?, actual.number? with
  | some x, some y => if x.numEq y then [] else [changed path expected actual]
  | _, _ => [mismatched path expected actual]

/-- The items of an array beyond the expected ones, counted from `i`. -/
def addedItems (path : String) (i : Nat) : List Value → List Difference
  | [] => []
  | v :: vs => added (indexPath path i) v :: addedItems path (i + 1) vs

/-- The members of an object that are not expected. -/
def addedMembers (o : Options) (path : String) (expected : List (String × Value)) :
    List (String × Value) → List Difference
  | [] => []
  | (k, v) :: rest =>
    (if (lookup k expected).isSome || o.ignores (keyPath path k) then []
     else [added (keyPath path k) v]) ++ addedMembers o path expected rest

/-- The length of an array in words. -/
def lengthText (n : Nat) : String := "array of length " ++ toString n

/-- The differences between arrays whose order does not count, given for every
expected item the function that lists its differences to an actual item. -/
def compareUnordered (path : String) (trials : List (Value → List Difference))
    (expected actual : List Value) : List Difference :=
  if expected.length ≠ actual.length then
    [⟨path, .changed, .description (lengthText expected.length),
      .description (lengthText actual.length)⟩]
  else
    (Pairing.unmatched (fun trial v => (trial v).isEmpty) trials actual).map fun (i, j) =>
      ⟨indexPath path i, .changed, .value (expected[i]?.getD .null),
        match j.bind (actual[·]?) with
        | some v => .value v
        | none => .absent⟩

mutual

/-- The differences between an expected and an actual value at a path. -/
def compare (o : Options) : Value → String → Value → List Difference
  | expected, path, actual =>
    if o.ignores path then []
    else match expected with
      | .matcher m => checkMatcher path m actual
      | .null => if actual.isNull then [] else [added path actual]
      | .object members =>
        match actual with
        | .null => [removed path (.object members)]
        | .object others =>
          compareMembers o path others members ++ addedMembers o path members others
        | other => [mismatched path (.object members) other]
      | .array items =>
        match actual with
        | .null => [removed path (.array items)]
        | .array others =>
          if o.unordered path then
            compareUnordered path (itemTrials o path 0 items) items others
          else compareItems o path 0 items others
        | other => [mismatched path (.array items) other]
      | .string s =>
        match actual with
        | .null => [removed path (.string s)]
        | .string t => if s = t then [] else [changed path (.string s) (.string t)]
        | other => [mismatched path (.string s) other]
      | .bool a =>
        match actual with
        | .null => [removed path (.bool a)]
        | .bool b => if a = b then [] else [changed path (.bool a) (.bool b)]
        | other => [mismatched path (.bool a) other]
      | number =>
        if actual.isNull then [removed path number] else compareNumber path number actual

/-- The differences at the expected members of an object. -/
def compareMembers (o : Options) (path : String) (others : List (String × Value)) :
    List (String × Value) → List Difference
  | [] => []
  | (k, v) :: rest =>
    (if o.ignores (keyPath path k) || v.matcher?.any Matcher.isIgnore then []
     else match lookup k others with
       | some w => compare o v (keyPath path k) w
       | none => [removed (keyPath path k) v]) ++ compareMembers o path others rest

/-- The differences between the items of two arrays, counted from `i`. -/
def compareItems (o : Options) (path : String) (i : Nat) :
    List Value → List Value → List Difference
  | [], others => addedItems path i others
  | v :: vs, [] => removed (indexPath path i) v :: compareItems o path (i + 1) vs []
  | v :: vs, w :: ws => compare o v (indexPath path i) w ++ compareItems o path (i + 1) vs ws

/-- For each item, counted from `i`, the function that lists its differences to
an actual item. -/
def itemTrials (o : Options) (path : String) (i : Nat) :
    List Value → List (Value → List Difference)
  | [] => []
  | v :: vs => (fun w => compare o v (indexPath path i) w) :: itemTrials o path (i + 1) vs

end

end Expectation.Json
