import Expectation.Html.Construction.Frames

/-!
# Drawings and formulas

Inside a drawing or a formula other rules hold: tags open elements of the
vocabulary around them, and some names have capital letters. A tag that belongs
to the page ends the drawing, and some elements of drawings and formulas hold
parts of the page again.
-/

namespace Expectation.Html.Builder

/-- The opening tags that end a drawing or a formula. -/
def pageTags : List String := [
  "b", "big", "blockquote", "body", "br", "center", "code", "dd", "div", "dl", "dt", "em",
  "embed", "h1", "h2", "h3", "h4", "h5", "h6", "head", "hr", "i", "img", "li", "listing", "menu",
  "meta", "nobr", "ol", "p", "pre", "ruby", "s", "small", "span", "strong", "strike", "sub",
  "sup", "table", "tt", "u", "ul", "var"]

/-- The closing tags that end a drawing or a formula: those that open what they close. -/
def pageClosings : List String := ["p", "br"]

/-- The elements of drawings with capital letters in their tags. -/
def svgTags : List String := [
  "altGlyph", "altGlyphDef", "altGlyphItem", "animateColor", "animateMotion",
  "animateTransform", "clipPath", "feBlend", "feColorMatrix", "feComponentTransfer",
  "feComposite", "feConvolveMatrix", "feDiffuseLighting", "feDisplacementMap",
  "feDistantLight", "feDropShadow", "feFlood", "feFuncA", "feFuncB", "feFuncG", "feFuncR",
  "feGaussianBlur", "feImage", "feMerge", "feMergeNode", "feMorphology", "feOffset",
  "fePointLight", "feSpecularLighting", "feSpotLight", "feTile", "feTurbulence",
  "foreignObject", "glyphRef", "linearGradient", "radialGradient", "textPath"]

/-- Whether a token is placed by the rules for drawings and formulas. -/
def isForeign (b : Builder) (token : Token) : Bool :=
  match b.opened.head? with
  | none => false
  | some i =>
    match b.label? i, token with
    | none, _ => false
    | some (.html, _), _ => false
    | _, .finish => false
    | some (space, tag), token =>
      let startsWith (test : String → Bool) : Bool :=
        match token with
        | .opening t => test t.name
        | .char _ => true
        | _ => false
      !(b.isMathText i && startsWith fun name => name != "mglyph" && name != "malignmark") &&
        !(b.isSvgHolder i && startsWith fun _ => true) &&
        !(space = .math && tag = "annotation-xml" &&
          match token with
          | .opening t => t.name == "svg"
          | _ => false)

/-- Whether the innermost open element is a drawing or a formula, or part of one. -/
def inForeign (b : Builder) : Bool :=
  match b.opened.head?.bind b.label? with
  | some (.html, _) => false
  | some _ => true
  | none => false

/-- Opens an element of the vocabulary around it. -/
def openForeign (b : Builder) (tag : Tag) : Builder :=
  match b.opened.head?.bind b.label? with
  | some (.svg, _) => b.insertForeign .svg { tag with name := respell svgTags tag.name }
  | some (space, _) => b.insertForeign space tag
  | none => b

/-- Closes the elements of drawings and formulas up to one that holds parts of
the page. -/
def leaveForeign (b : Builder) : Builder :=
  let holds (i : Nat) : Bool :=
    b.isMathText i || b.isSvgHolder i ||
      match b.label? i with
      | some (.html, _) => true
      | _ => false
  { b with opened := b.opened.dropWhile fun i => !holds i }

/-- What a closing tag finds among the open elements. -/
inductive Found where
  /-- The element it closes, given by the elements below it. -/
  | element (below : List Nat)
  /-- An element of the page, whose rules decide. -/
  | page
  /-- Nothing. -/
  | nothing
  deriving DecidableEq, Repr

/-- What a closing tag finds, from the innermost open element outwards; an
element of the page counts only behind the `first`. -/
def findClosed (b : Builder) (name : String) (first : Bool) : List Nat → Found
  | [] => .nothing
  | [_] => .nothing
  | i :: rest =>
    match b.label? i with
    | none => findClosed b name false rest
    | some (space, tag) =>
      if !first && space = .html then .page
      else if Text.sameName tag name then .element rest
      else findClosed b name false rest

/-- The rules in a drawing or a formula; `page` are the rules of the page. -/
def foreignStep (page : Builder → Token → Outcome) (b : Builder) (token : Token) : Outcome :=
  match token with
  | .char c =>
    if c = '\x00' then .done (b.insertChar replacement)
    else
      let b := b.insertChar c
      .done (if isFiller c then b else b.keepBody)
  | .comment text => .done (b.insertComment text)
  | .opening tag =>
    let ends := pageTags.contains tag.name ||
      (tag.name = "font" &&
        tag.attributes.any fun (name, _) => ["color", "face", "size"].contains name)
    if ends then page b.leaveForeign token else .done (b.openForeign tag)
  | .closing name =>
    if pageClosings.contains name then page b.leaveForeign token
    else match b.findClosed name true b.opened with
      | .element below => .done { b with opened := below }
      | .page => page b token
      | .nothing => .done b
  | _ => .done b

end Expectation.Html.Builder
