import Expectation.Json.Path

/-!
# Options for comparing JSON documents

The options name parts of a document by path: arrays whose order does not count
and values that are not compared. An array is covered by its own path and by
the path of anything it lies in; a value is left out by its full path or by the
last segment of it, the part behind the last point.
-/

namespace Expectation.Json

/-- How two JSON documents are compared. -/
structure Options where
  /-- The order of no array counts. -/
  ignoreArrayOrder : Bool := false
  /-- Paths below which the order of arrays does not count. -/
  ignoreArrayOrderPaths : List String := []
  /-- Paths, or last segments of paths, of values that are not compared. -/
  ignoredFields : List String := []
  deriving DecidableEq, Repr

namespace Options

/-- The part of a path behind its last point. -/
def lastSegment (path : String) : String :=
  String.ofList ((path.toList.reverse.takeWhile (· != '.')).reverse)

/-- Whether a path leads to a place, or to a place inside, of the value that an
entry names. -/
def covers (entry path : String) : Bool :=
  path == entry ||
    (entry.toList.isPrefixOf path.toList &&
      match path.toList.drop entry.toList.length with
      | c :: _ => c == '.' || c == '['
      | [] => false)

/-- Whether the order of the array at a path does not count. -/
def unordered (o : Options) (path : String) : Bool :=
  o.ignoreArrayOrder || o.ignoreArrayOrderPaths.any (covers · path)

/-- Whether the value at a path is not compared. -/
def ignores (o : Options) (path : String) : Bool :=
  o.ignoredFields.any fun f => f == path || f == lastSegment path

end Options

end Expectation.Json
