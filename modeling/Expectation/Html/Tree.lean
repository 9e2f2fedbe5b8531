/-!
# Plain trees of pages

A `Tree` is what the text of a page denotes before matchers are looked for:
elements with attributes, texts, comments and declarations. The attributes of an
element have an order of their own, which does not depend on the order in
which they are written.
-/

namespace Expectation.Html

/-- An attribute. Some attributes of drawings and formulas belong to another
vocabulary, which is named by `space`. -/
structure Attribute where
  space : Option String := none
  name : String
  value : String
  deriving DecidableEq, Repr

namespace Attribute

/-- Attributes without a vocabulary come first, and then by vocabulary and name. -/
def before (a b : Attribute) : Bool :=
  match a.space, b.space with
  | none, none => a.name < b.name
  | none, some _ => true
  | some _, none => false
  | some s, some t => s < t || (s == t && a.name < b.name)

/-- The attributes with one more put in its place; one that is there already
stays as it is. -/
def insert (a : Attribute) : List Attribute → List Attribute
  | [] => [a]
  | b :: bs =>
    if a.before b then a :: b :: bs
    else if a.space = b.space && a.name = b.name then b :: bs
    else b :: insert a bs

/-- The attributes with those added that they lack. -/
def addMissing (present new : List Attribute) : List Attribute :=
  new.foldl (fun as a => insert a as) present

end Attribute

/-- A part of a page. -/
inductive Tree where
  /-- An element with its attributes in order. -/
  | element (tag : String) (attributes : List Attribute) (children : List Tree)
  | text (text : String)
  | comment (text : String)
  | doctype (name : String)

instance : Inhabited Tree := ⟨.text ""⟩

end Expectation.Html
