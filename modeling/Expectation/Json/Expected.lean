import Expectation.DocumentError
import Expectation.Json.Path
import Expectation.Json.Reading

/-!
# Expected JSON documents

An expected document is read in three steps: its placeholders are replaced by
sentinels, the result is read as JSON, and in the tree every string that is
just one sentinel becomes the matcher it stands for. A placeholder that is only
a part of a string, or stands in a key, is put back as the text it was.
-/

namespace Expectation.Json

mutual

/-- The tree with the sentinels of its strings and keys resolved. -/
def resolve (s : Substitution) : Value → Except DocumentError Value
  | .string text =>
    match s.whole? text with
    | some i => (s.matcher i).map .matcher
    | none => .ok (.string (s.restore text))
  | .array items => (resolveItems s items).map .array
  | .object members => (resolveMembers s members).map fun ms => .object (ofPairs ms)
  | v => .ok v

/-- The items with their sentinels resolved. -/
def resolveItems (s : Substitution) : List Value → Except DocumentError (List Value)
  | [] => .ok []
  | v :: vs =>
    match resolve s v with
    | .error e => .error e
    | .ok v => (resolveItems s vs).map (v :: ·)

/-- The members with the sentinels of their keys and values resolved. -/
def resolveMembers (s : Substitution) :
    List (String × Value) → Except DocumentError (List (String × Value))
  | [] => .ok []
  | (k, v) :: ms =>
    match resolve s v with
    | .error e => .error e
    | .ok v => (resolveMembers s ms).map ((s.restore k, v) :: ·)

end

/-- An expected document: its tree, and the placeholders found in its text. -/
structure Expected where
  root : Value
  substitution : Substitution

/-- Reads an expected document. -/
def readExpected (text : String) : Except DocumentError Expected :=
  let s := Substitution.ofText .value text
  match readString s.text with
  | .error fault => .error (.json fault)
  | .ok v => (resolve s v).map fun root => ⟨root, s⟩

/-- Reads the text of an actual document, in which placeholders mean nothing. -/
def readActualText (text : String) : Except DocumentError Value :=
  match readString text with
  | .error fault => .error (.json fault)
  | .ok v => .ok v

/-- Reads an actual document. -/
def readActual (bytes : List UInt8) : Except DocumentError Value :=
  match readBytes bytes with
  | .error fault => .error (.json fault)
  | .ok v => .ok v

/-! ## Where the matchers are -/

namespace Value

mutual

/-- The matchers of a tree with the paths of their places, in order. -/
def matcherPaths (path : String) : Value → List (String × Matcher)
  | .matcher m => [(path, m)]
  | .array items => matcherPathsItems path 0 items
  | .object members => matcherPathsMembers path members
  | _ => []

/-- The matchers among items, counted from `i`. -/
def matcherPathsItems (path : String) (i : Nat) : List Value → List (String × Matcher)
  | [] => []
  | v :: vs => matcherPaths (indexPath path i) v ++ matcherPathsItems path (i + 1) vs

/-- The matchers among members. -/
def matcherPathsMembers (path : String) : List (String × Value) → List (String × Matcher)
  | [] => []
  | (k, v) :: ms => matcherPaths (keyPath path k) v ++ matcherPathsMembers path ms

end

end Value

/-- The description of the matcher at each path; where two places share a path,
the later one counts. -/
def Expected.positions (e : Expected) : List (String × String) :=
  ofPairs ((e.root.matcherPaths rootPath).map fun (path, m) => (path, m.describe))

end Expectation.Json
