import Expectation.Text.AsciiCase

/-!
# Options for comparing pages

The options leave out parts of a page by name or by path. Names of elements and
attributes count up to ASCII case; an attribute of a single element is named by
the path of the element, a sign and the name, which have to fit exactly.
-/

namespace Expectation.Html

/-- How two pages are compared. -/
structure Options where
  /-- Comments are not compared. -/
  ignoreComments : Bool := false
  /-- Blanks in texts count. -/
  preserveWhitespace : Bool := false
  /-- The order of no children counts. -/
  ignoreChildOrder : Bool := false
  /-- Paths of elements in which, and below which, the order of children does
  not count. -/
  ignoreChildOrderPaths : List String := []
  /-- Tags of elements that are not compared. -/
  ignoredElements : List String := []
  /-- Names of attributes that are not compared. -/
  ignoredAttributes : List String := []
  /-- Attributes of single elements that are not compared. -/
  ignoredAttributePaths : List String := []
  deriving DecidableEq, Repr

namespace Options

/-- Whether a path leads to the element that an entry names, or to one inside it. -/
def covers (entry path : String) : Bool :=
  path == entry ||
    (entry.toList.isPrefixOf path.toList &&
      [' ', '>', ' '].isPrefixOf (path.toList.drop entry.toList.length))

/-- Whether the order of the children of the element at a path does not count. -/
def unordered (o : Options) (path : String) : Bool :=
  o.ignoreChildOrder || o.ignoreChildOrderPaths.any (covers · path)

/-- Whether elements with a tag are not compared. -/
def ignoresElement (o : Options) (tag : String) : Bool :=
  o.ignoredElements.any (Text.sameName · tag)

/-- An entry cut at its last sign: the path and the name of an attribute. -/
def cutEntry? (entry : String) : Option (String × String) :=
  let back := entry.toList.reverse
  match back.dropWhile (· != '@') with
  | [] => none
  | _ :: front =>
    some (String.ofList front.reverse, String.ofList (back.takeWhile (· != '@')).reverse)

/-- Whether an attribute of the element at a path is not compared. -/
def ignoresAttribute (o : Options) (path name : String) : Bool :=
  o.ignoredAttributes.any (Text.sameName · name) ||
    o.ignoredAttributePaths.any fun entry => cutEntry? entry == some (path, name)

end Options

end Expectation.Html
