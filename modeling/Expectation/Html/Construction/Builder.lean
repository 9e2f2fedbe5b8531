import Expectation.Html.Store
import Expectation.Html.Token
import Expectation.Text.AsciiCase

/-!
# Building a tree from tokens

The tree of a page is built token by token. A `Builder` holds the tree so far
and what is needed to place the next token: the *open* elements, innermost
first, the *formatting* elements that are opened again when they were cut off
by the end of the element around them, and the mode, which says by what rules
tokens are placed.

This module has the operations that the rules share: questions about the open
elements, and insertion. An insertion goes into the innermost open element,
except that what does not belong into a table is *fostered*: it is put in front
of the table.
-/

namespace Expectation.Html

/-- By what rules a token is placed. -/
inductive Mode where
  | initial
  | beforeRoot
  | beforeHead
  | inHead
  | afterHead
  | inBody
  /-- In an element whose content is not markup. -/
  | inText
  | inTable
  /-- In a table, while text is collected. -/
  | inTableText
  | inCaption
  | inColumnGroup
  | inTableBody
  | inRow
  | inCell
  | inSelect
  /-- In a selection inside a table. -/
  | inSelectInTable
  | inTemplate
  | afterBody
  | inFrameset
  | afterFrameset
  | afterAfterBody
  | afterAfterFrameset
  deriving DecidableEq, Repr

/-- An entry of the list of formatting elements. A marker keeps what is before
it from being opened again. -/
inductive Formatting where
  | marker
  | element (id : Nat) (tag : Tag)
  deriving DecidableEq, Repr

/-- A tree under construction. -/
structure Builder where
  store : Store := .empty
  mode : Mode := .initial
  /-- The mode to go back to after text. -/
  returnMode : Mode := .initial
  /-- The modes of the open templates, innermost first. -/
  templateModes : List Mode := []
  /-- The characters collected in a table, latest first. -/
  pending : List Char := []
  /-- The page is written for old rules. -/
  oldRules : Bool := false
  /-- The open elements, innermost first. -/
  opened : List Nat := []
  /-- The formatting elements, latest first. -/
  formatting : List Formatting := []
  head : Option Nat := none
  form : Option Nat := none
  /-- The body may still be replaced by a set of frames. -/
  framesetOk : Bool := true
  /-- A line end that comes next is left out. -/
  skipNewline : Bool := false
  /-- A mark of the byte order that comes next is left out. -/
  skipMark : Bool := false
  /-- What does not belong into a table is put in front of it. -/
  fostering : Bool := false
  /-- How the text that comes next is read. -/
  textMode : TextMode := .markup

/-- What a step leads to. -/
inductive Outcome where
  | done (b : Builder)
  /-- The token has to be placed again, by the rules of the mode reached. -/
  | again (b : Builder)

namespace Builder

/-! ## Names of elements -/

/-- The vocabulary and the tag of an element. -/
def label? (b : Builder) (i : Nat) : Option (Space × String) :=
  match b.store.cell? i with
  | some ⟨.element space tag _, _, _⟩ => some (space, tag)
  | _ => none

/-- Whether an element of the page's own vocabulary has one of some tags. -/
def isAny (b : Builder) (tags : List String) (i : Nat) : Bool :=
  match b.label? i with
  | some (.html, tag) => tags.contains tag
  | _ => false

/-- The elements of formulas in which text is text of the page. -/
def mathTextTags : List String := ["mi", "mo", "mn", "ms", "mtext"]

def isMathText (b : Builder) (i : Nat) : Bool :=
  match b.label? i with
  | some (.math, tag) => mathTextTags.contains tag
  | _ => false

/-- The elements of drawings that hold parts of the page. -/
def svgHolderTags : List String := ["foreignObject", "desc", "title"]

def isSvgHolder (b : Builder) (i : Nat) : Bool :=
  match b.label? i with
  | some (.svg, tag) => svgHolderTags.contains tag
  | _ => false

/-- The innermost open element is one of some tags. -/
def current (b : Builder) (tags : List String) : Bool :=
  b.opened.head?.any (b.isAny tags)

/-- An element of one of some tags is open. -/
def hasOpen (b : Builder) (tags : List String) : Bool :=
  b.opened.any (b.isAny tags)

def hasOpenTemplate (b : Builder) : Bool := b.hasOpen ["template"]

/-- The elements that end in various ways: a heading, a cell, a row group. -/
def headingTags : List String := ["h1", "h2", "h3", "h4", "h5", "h6"]

def cellTags : List String := ["td", "th"]

def rowGroupTags : List String := ["tbody", "tfoot", "thead"]

/-- The elements that other elements do not end across. -/
def specialTags : List String := [
  "address", "applet", "area", "article", "aside", "base", "basefont", "bgsound", "blockquote",
  "body", "br", "button", "caption", "center", "col", "colgroup", "dd", "details", "dir", "div",
  "dl", "dt", "embed", "fieldset", "figcaption", "figure", "footer", "form", "frame", "frameset",
  "h1", "h2", "h3", "h4", "h5", "h6", "head", "header", "hgroup", "hr", "html", "iframe", "img",
  "input", "isindex", "li", "link", "listing", "main", "marquee", "menu", "meta", "nav",
  "noembed", "noframes", "noscript", "object", "ol", "p", "param", "plaintext", "pre", "script",
  "section", "select", "source", "style", "summary", "table", "tbody", "td", "template",
  "textarea", "tfoot", "th", "thead", "title", "tr", "track", "ul", "wbr", "xmp"]

/-! ## Scopes -/

/-- Whether a wanted element is open with none between that ends the scope. -/
def inScopeOf {α : Type} (ends wanted : α → Bool) : List α → Bool
  | [] => false
  | i :: rest => wanted i || (!ends i && inScopeOf ends wanted rest)

/-- The elements that end every scope of running text. -/
def scopeTags : List String :=
  ["applet", "caption", "html", "table", "td", "th", "marquee", "object", "template"]

/-- Whether an element ends a scope of running text; some scopes have more ends. -/
def endsScope (b : Builder) (more : List String) (i : Nat) : Bool :=
  b.isAny scopeTags i || b.isAny more i || b.isMathText i || b.isSvgHolder i

/-- Whether an element of one of some tags is in scope. -/
def inScope (b : Builder) (tags : List String) : Bool :=
  inScopeOf (b.endsScope []) (b.isAny tags) b.opened

def inListScope (b : Builder) (tags : List String) : Bool :=
  inScopeOf (b.endsScope ["ol", "ul"]) (b.isAny tags) b.opened

def inButtonScope (b : Builder) (tags : List String) : Bool :=
  inScopeOf (b.endsScope ["button"]) (b.isAny tags) b.opened

/-- The elements that a table does not reach across. -/
def tableScopeTags : List String := ["html", "table", "template"]

def inTableScope (b : Builder) (tags : List String) : Bool :=
  inScopeOf (b.isAny tableScopeTags) (b.isAny tags) b.opened

def inSelectScope (b : Builder) (tags : List String) : Bool :=
  inScopeOf (fun i => !b.isAny ["optgroup", "option"] i) (b.isAny tags) b.opened

/-! ## Closing elements -/

/-- The elements without the first wanted one and those before it. -/
def afterFirst (wanted : Nat → Bool) (ids : List Nat) : List Nat :=
  (ids.dropWhile fun i => !wanted i).drop 1

/-- Closes the innermost open element. -/
def pop (b : Builder) : Builder := { b with opened := b.opened.drop 1 }

/-- Closes elements up to one of some tags, and that one. -/
def popThrough (b : Builder) (tags : List String) : Builder :=
  { b with opened := afterFirst (b.isAny tags) b.opened }

/-- Closes elements up to one of some tags, which stays open. -/
def popTo (b : Builder) (tags : List String) : Builder :=
  { b with opened := b.opened.dropWhile fun i => !b.isAny tags i }

/-- The elements that may end without a closing tag. -/
def impliedEndTags : List String :=
  ["dd", "dt", "li", "option", "optgroup", "p", "rb", "rp", "rt", "rtc"]

/-- Closes the elements that may end without a closing tag, except for a tag. -/
def closeImplied (b : Builder) (except : String) : Builder :=
  let ends := impliedEndTags.filter (· != except)
  { b with opened := b.opened.dropWhile (b.isAny ends) }

/-- Closes an element of a tag, and what may end without a closing tag in it. -/
def closeElement (b : Builder) (tag : String) : Builder :=
  (b.closeImplied tag).popThrough [tag]

/-- Closes a paragraph if one is open. -/
def closeParagraph (b : Builder) : Builder :=
  if b.inButtonScope ["p"] then b.closeElement "p" else b

/-- Forgets the formatting elements up to the latest marker. -/
def clearFormatting (b : Builder) : Builder :=
  { b with formatting := (b.formatting.dropWhile (· != .marker)).drop 1 }

/-- Takes an element out of the open ones. -/
def removeOpen (b : Builder) (i : Nat) : Builder :=
  { b with opened := b.opened.erase i }

/-! ## Insertion -/

/-- Where something is inserted. -/
inductive Place where
  /-- At the end of a cell. -/
  | inside (i : Nat)
  /-- In front of a table, or at the end of the element around it if the table
  is not part of anything. -/
  | beside (table around : Nat)
  deriving DecidableEq, Repr

/-- The cell for what is put into an element. -/
def inside (b : Builder) (i : Nat) : Place :=
  if b.isAny ["template"] i then .inside (((b.store.children i).head?).getD i) else .inside i

/-- The place for what is fostered. -/
def fosterPlace (b : Builder) : List Nat → Place
  | [] => .inside Store.page
  | [root] => .inside root
  | i :: around :: rest =>
    if b.isAny ["template"] i then b.inside i
    else if b.isAny ["table"] i then .beside i around
    else fosterPlace b (around :: rest)

/-- The elements of a table that hold no text of the page. -/
def tablePartTags : List String := ["table", "tbody", "tfoot", "thead", "tr"]

/-- The place for what is put into an element. -/
def placeIn (b : Builder) (i : Nat) : Place :=
  if b.fostering && b.isAny tablePartTags i then b.fosterPlace b.opened else b.inside i

/-- The place for what comes next. -/
def place (b : Builder) : Place := b.placeIn (b.opened.head?.getD Store.page)

/-- Puts a cell at a place. -/
def put (b : Builder) (place : Place) (i : Nat) : Builder :=
  match place with
  | .inside p => { b with store := b.store.append p i }
  | .beside table around =>
    if (b.store.parent? table).isSome then { b with store := b.store.insertBefore table i }
    else { b with store := b.store.append around i }

/-- Inserts a character of text. -/
def insertChar (b : Builder) (c : Char) : Builder :=
  let text := c.toString
  match b.place with
  | .inside p => { b with store := b.store.appendText p text }
  | .beside table around =>
    if (b.store.parent? table).isSome then
      { b with store := b.store.insertTextBefore table text }
    else { b with store := b.store.appendText around text }

/-- Inserts a comment into a cell. -/
def commentIn (b : Builder) (place : Place) (text : String) : Builder :=
  let (i, store) := b.store.create (.comment text)
  { b with store }.put place i

/-- Inserts a comment. -/
def insertComment (b : Builder) (text : String) : Builder := b.commentIn b.place text

/-- Inserts a comment at the end of the page. -/
def commentOnPage (b : Builder) (text : String) : Builder :=
  b.commentIn (.inside Store.page) text

/-- Inserts a comment at the end of the root element. -/
def commentInRoot (b : Builder) (text : String) : Builder :=
  b.commentIn (.inside (b.opened.getLast?.getD Store.page)) text

/-- The attributes of a tag of the page's own vocabulary. -/
def plainAttributes (tag : Tag) : List Attribute :=
  tag.attributes.map fun (name, value) => ⟨none, name, value⟩

/-- A new element, which is not yet part of the page. The content of a template
is kept apart. -/
def createElement (b : Builder) (space : Space) (tag : String) (attributes : List Attribute) :
    Nat × Builder :=
  let (i, store) := b.store.create (.element space tag (Attribute.addMissing [] attributes))
  if space = .html && tag = "template" then
    let (content, store) := store.create .inert
    (i, { b with store := store.append i content })
  else (i, { b with store })

/-- Inserts an element and opens it, and gives its number. -/
def insertAndOpen (b : Builder) (space : Space) (tag : String) (attributes : List Attribute) :
    Nat × Builder :=
  let place := b.place
  let (i, b) := b.createElement space tag attributes
  let b := b.put place i
  (i, { b with opened := i :: b.opened })

/-- Inserts and opens the element of a tag. -/
def insert (b : Builder) (tag : Tag) : Builder :=
  (b.insertAndOpen .html tag.name (plainAttributes tag)).2

/-- Inserts the element of a tag, which has no content. -/
def insertVoid (b : Builder) (tag : Tag) : Builder := (b.insert tag).pop

/-- Inserts and opens an element that no tag asked for. -/
def insertImplied (b : Builder) (name : String) : Builder := b.insert { name }

/-- Inserts an element whose content is not markup. -/
def insertText (b : Builder) (tag : Tag) (mode : TextMode) : Builder :=
  { b.insert tag with returnMode := b.mode, mode := .inText, textMode := mode }

/-- Adds the attributes of a tag to an element that lacks them. -/
def addAttributes (b : Builder) (i : Nat) (tag : Tag) : Builder :=
  { b with store := b.store.addAttributes i (plainAttributes tag) }

/-! ## The mode for the open elements -/

/-- The mode for a selection inside some elements. -/
def selectMode (b : Builder) : List Nat → Mode
  | [] => .inSelect
  | i :: rest =>
    if b.isAny ["template"] i then .inSelect
    else if b.isAny ["table"] i then .inSelectInTable
    else selectMode b rest

/-- The mode for elements that are open, innermost first. -/
def modeFor (b : Builder) : List Nat → Mode
  | [] => .inBody
  | i :: rest =>
    if b.isAny ["select"] i then b.selectMode rest
    else if b.isAny cellTags i && !rest.isEmpty then .inCell
    else if b.isAny ["tr"] i then .inRow
    else if b.isAny rowGroupTags i then .inTableBody
    else if b.isAny ["caption"] i then .inCaption
    else if b.isAny ["colgroup"] i then .inColumnGroup
    else if b.isAny ["table"] i then .inTable
    else if b.isAny ["template"] i then b.templateModes.head?.getD .inBody
    else if b.isAny ["head"] i && !rest.isEmpty then .inHead
    else if b.isAny ["body"] i then .inBody
    else if b.isAny ["frameset"] i then .inFrameset
    else if b.isAny ["html"] i then (if b.head.isSome then .afterHead else .beforeHead)
    else modeFor b rest

/-- Goes to the mode for the open elements. -/
def resetMode (b : Builder) : Builder := { b with mode := b.modeFor b.opened }

def withMode (b : Builder) (mode : Mode) : Builder := { b with mode }

/-- The body has content, or was written out, and stays. -/
def keepBody (b : Builder) : Builder := { b with framesetOk := false }

end Builder

end Expectation.Html
