import Expectation.Json.Value

/-!
# Places in a JSON tree

A place is the way from the root to a value: keys and indices. Reports and
options name it by a text, the *path*: a key is put behind a point and an index
into brackets. A path is only a name; keys that hold points or brackets can make
two places share one.

## Main results

* `render_append`: the path of a place inside a value is the path of the value
  with the rest of the way behind it.
-/

namespace Expectation.Json

/-- One step down a tree. -/
inductive Step where
  | key (name : String)
  | index (i : Nat)
  deriving DecidableEq, Repr

/-- The way from a value to one inside it. -/
abbrev Place := List Step

/-- The path of a whole document. -/
def rootPath : String := "$"

/-- The path of the value at a key. -/
def keyPath (path key : String) : String := path ++ "." ++ key

/-- The path of the item at an index. -/
def indexPath (path : String) (i : Nat) : String := path ++ "[" ++ toString i ++ "]"

/-- The path one step further down. -/
def Step.extend (path : String) : Step → String
  | .key k => keyPath path k
  | .index i => indexPath path i

/-- The path of a place below the value that has a path. -/
def Place.render (path : String) : Place → String
  | [] => path
  | s :: rest => Place.render (s.extend path) rest

theorem Place.render_append (path : String) (p q : Place) :
    Place.render path (p ++ q) = Place.render (Place.render path p) q := by
  induction p generalizing path with
  | nil => rfl
  | cons s p ih => exact ih _

namespace Value

/-- The value one step down, if there is one. -/
def step? : Value → Step → Option Value
  | .object members, .key k => lookup k members
  | .array items, .index i => items[i]?
  | _, _ => none

/-- The value at a place, if there is one. -/
def at? (v : Value) : Place → Option Value
  | [] => some v
  | s :: rest =>
    match v.step? s with
    | some w => w.at? rest
    | none => none

end Value

end Expectation.Json
