import Expectation.Json.Value
import Expectation.Template
import Expectation.Text.Visible

/-!
# Pages as trees

A page is a tree of elements, texts, comments and declarations. The texts and
attribute values of an expected page may be matchers or templates. Every node
carries the path by which reports and options name it; the path is fixed when
the page is read and is not changed by what happens to the tree later.

A whole page is wrapped in an element of its own, so that a declaration and
comments outside the outermost element have a place.
-/

namespace Expectation.Html

/-- A text or an attribute value. -/
inductive Value where
  /-- Plain text. -/
  | literal (text : String)
  /-- One matcher for the whole value. -/
  | matcher (m : Matcher)
  /-- Literal text with matchers in it. -/
  | template (t : Template)
  deriving DecidableEq

namespace Value

/-- The value as it is written in a document. -/
def text : Value → String
  | .literal s => s
  | .matcher m => m.describe
  | .template t => t.describe

/-- The matcher that is the whole value, if there is one. -/
def matcher? : Value → Option Matcher
  | .matcher m => some m
  | _ => none

/-- A literal text without anything but blanks. -/
def isBlank : Value → Bool
  | .literal s => Text.allBlank s
  | _ => false

end Value

/-- A node of a page. -/
inductive Node where
  /-- An element; its attributes are kept by ascending name. -/
  | element (path tag : String) (attributes : List (String × Value)) (children : List Node)
  | text (path : String) (value : Value)
  | comment (path text : String)
  | doctype (path name : String)

instance : Inhabited Node := ⟨.comment "" ""⟩

/-- The tag of the element that wraps a whole page. -/
def documentTag : String := "#document"

namespace Node

/-- The path of a node. -/
def path : Node → String
  | .element p _ _ _ => p
  | .text p _ => p
  | .comment p _ => p
  | .doctype p _ => p

/-- The word for the kind of node. -/
def kindName : Node → String
  | .element .. => "element"
  | .text .. => "text"
  | .comment .. => "comment"
  | .doctype .. => "doctype"

/-- A text without anything but blanks. -/
def isBlankText : Node → Bool
  | .text _ v => v.isBlank
  | _ => false

/-- The longest text in a description. -/
def maxDescription : Nat := 30

/-- A few words about a node. -/
def describe : Node → String
  | .element _ tag _ _ => "<" ++ tag ++ ">"
  | .text _ v =>
    let cs := v.text.toList
    if cs.length ≤ maxDescription then Text.quoteVisible cs
    else Text.quoteVisible (cs.take maxDescription) ++ "..."
  | .comment .. => "<!-- comment -->"
  | .doctype .. => "<!DOCTYPE>"

mutual

/-- Whether two trees are equal, paths included. -/
def same : Node → Node → Bool
  | .element p s as cs, .element q t bs ds => p == q && s == t && as == bs && sameList cs ds
  | .text p v, .text q w => p == q && v == w
  | .comment p s, .comment q t => p == q && s == t
  | .doctype p s, .doctype q t => p == q && s == t
  | _, _ => false

/-- Whether two lists of trees are equal, paths included. -/
def sameList : List Node → List Node → Bool
  | [], [] => true
  | a :: as, b :: bs => same a b && sameList as bs
  | _, _ => false

end

/-! ## Where the matchers are -/

/-- The name of an attribute of an element in a listing of matchers. -/
def attributeKey (path name : String) : String := path ++ "@" ++ name

mutual

/-- The matchers of a tree that are whole texts or attribute values, with the
names of their places, in order. -/
def matcherPaths : Node → List (String × Matcher)
  | .element p _ as cs =>
    (as.filterMap fun (name, v) => v.matcher?.map fun m => (attributeKey p name, m)) ++
      matcherPathsList cs
  | .text p v => (v.matcher?.map fun m => (p, m)).toList
  | _ => []

/-- The matchers of several trees. -/
def matcherPathsList : List Node → List (String × Matcher)
  | [] => []
  | n :: ns => matcherPaths n ++ matcherPathsList ns

end

/-- The description of the matcher at each place; of two with one name the later
one counts. -/
def positions (n : Node) : List (String × String) :=
  Json.ofPairs (n.matcherPaths.map fun (path, m) => (path, m.describe))

end Node

end Expectation.Html
