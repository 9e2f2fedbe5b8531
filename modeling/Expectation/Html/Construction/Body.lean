import Expectation.Html.Construction.Head

/-!
# The body of a page

The rules for running text and for the elements in it. What a tag does depends
on its family: some elements end a paragraph, some are void, some are formatting.
A tag without rules of its own opens and closes an ordinary element.
-/

namespace Expectation.Html.Builder

/-! ## Families of elements -/

/-- The blocks: they end a paragraph. -/
def blockTags : List String := [
  "address", "article", "aside", "blockquote", "center", "details", "dialog", "dir", "div", "dl",
  "fieldset", "figcaption", "figure", "footer", "header", "hgroup", "main", "menu", "nav", "ol",
  "search", "section", "summary", "ul"]

/-- The elements that are closed as blocks are. -/
def blockEndTags : List String := blockTags ++ ["button", "listing", "pre"]

/-- The formatting elements other than links. -/
def formattingTags : List String :=
  ["b", "big", "code", "em", "font", "i", "s", "small", "strike", "strong", "tt", "u"]

/-- The elements that hold content of their own, which formatting does not
enter. -/
def holderTags : List String := ["applet", "marquee", "object"]

/-- The elements in running text that have no content. -/
def inlineVoidTags : List String := ["area", "br", "embed", "img", "keygen", "wbr"]

/-- The elements without content that only describe the element around them. -/
def describingVoidTags : List String := ["param", "source", "track"]

/-- The tags that count only in a table or in front of the body. -/
def misplacedTags : List String :=
  ["caption", "col", "colgroup", "frame", "head", "tbody", "td", "tfoot", "th", "thead", "tr"]

/-! ## Single rules -/

/-- The body, when it is open. -/
def body? (b : Builder) : Option Nat :=
  match b.opened.reverse with
  | _ :: i :: _ => if b.isAny ["body"] i then some i else none
  | _ => none

/-- A character of running text. -/
def bodyChar (b : Builder) (c : Char) : Builder :=
  if c = '\x00' then b
  else
    let b := b.reopenFormatting.insertChar c
    if isFiller c then b else b.keepBody

/-- A second tag of the body adds its attributes to the first. -/
def mergeBody (b : Builder) (tag : Tag) : Builder :=
  match b.body? with
  | some i => if b.hasOpenTemplate then b else (b.addAttributes i tag).keepBody
  | none => b

/-- A set of frames takes the place of a body without content. -/
def replaceBody (b : Builder) (tag : Tag) : Builder :=
  match b.body? with
  | some i =>
    if b.framesetOk then
      let root := b.opened.drop (b.opened.length - 1)
      let b := { b with store := b.store.detach i, opened := root }
      (b.insert tag).withMode .inFrameset
    else b
  | none => b

/-- Whether an item of a list ends another one: the tag of the innermost of the
open elements that it ends, unless a special element lies in between. -/
def endedItem? (b : Builder) (tags : List String) : List Nat → Option String
  | [] => none
  | i :: rest =>
    if b.isAny tags i then (b.label? i).map (·.2)
    else if b.isAny specialTags i && !b.isAny ["address", "div", "p"] i then none
    else endedItem? b tags rest

/-- Opens an item of a list. -/
def openItem (b : Builder) (tag : Tag) : Builder :=
  let ended := b.endedItem? (if tag.name = "li" then ["li"] else ["dd", "dt"]) b.opened
  let b := match ended with
    | some name => b.closeElement name
    | none => b
  (b.closeParagraph.insert tag).keepBody

/-- Opens a form, unless one is open. -/
def openForm (b : Builder) (tag : Tag) : Builder :=
  if b.form.isSome && !b.hasOpenTemplate then b
  else
    let (i, b) := b.closeParagraph.insertAndOpen .html tag.name (plainAttributes tag)
    if b.hasOpenTemplate then b else { b with form := some i }

/-- Closes the form. What is open in it stays open. -/
def closeForm (b : Builder) : Builder :=
  if b.hasOpenTemplate then
    if b.inScope ["form"] then (b.closeImplied "").popThrough ["form"] else b
  else
    match b.form with
    | none => b
    | some i =>
      let b := { b with form := none }
      if inScopeOf (b.endsScope []) (· == i) b.opened then (b.closeImplied "").removeOpen i else b

/-- Opens a button; one that is open is closed. -/
def openButton (b : Builder) (tag : Tag) : Builder :=
  let b := if b.inScope ["button"] then (b.closeImplied "").popThrough ["button"] else b
  (b.reopenFormatting.insert tag).keepBody

/-- Opens a selection. Inside a table it ends with the part of the table it is in. -/
def openSelect (b : Builder) (tag : Tag) : Builder :=
  let mode := if [.inTable, .inCaption, .inTableBody, .inRow, .inCell].contains b.mode then
    Mode.inSelectInTable else .inSelect
  ((b.reopenFormatting.insert tag).keepBody).withMode mode

/-- Closes an element in scope, and what may end without a closing tag in it. -/
def closeInScope (b : Builder) (name : String) : Builder :=
  if b.inScope [name] then (b.closeImplied "").popThrough [name] else b

/-- Closes a heading, whichever is open. -/
def closeHeading (b : Builder) : Builder :=
  if b.inScope headingTags then (b.closeImplied "").popThrough headingTags else b

/-- Closes a paragraph, which is put in if there is none. -/
def closeOrInsertParagraph (b : Builder) : Builder :=
  if b.inButtonScope ["p"] then b.closeElement "p" else (b.insertImplied "p").closeElement "p"

/-- Whether a tag is that of a hidden input. -/
def isHidden (tag : Tag) : Bool :=
  tag.attributes.any fun (name, value) => name == "type" && Text.sameName value "hidden"

/-- Inserts an element without content into running text. -/
def insertInlineVoid (b : Builder) (tag : Tag) : Builder :=
  (b.reopenFormatting.insertVoid tag).keepBody

/-! ## Elements of other vocabularies -/

/-- The attributes of drawings and formulas that belong to a vocabulary. -/
def spaceAttributes : List (String × String × String) := [
  ("xlink:actuate", "xlink", "actuate"), ("xlink:arcrole", "xlink", "arcrole"),
  ("xlink:href", "xlink", "href"), ("xlink:role", "xlink", "role"),
  ("xlink:show", "xlink", "show"), ("xlink:title", "xlink", "title"),
  ("xlink:type", "xlink", "type"), ("xml:lang", "xml", "lang"), ("xml:space", "xml", "space"),
  ("xmlns", "", "xmlns"), ("xmlns:xlink", "xmlns", "xlink")]

/-- The attributes of drawings with capital letters in their names. -/
def svgAttributes : List String := [
  "attributeName", "attributeType", "baseFrequency", "baseProfile", "calcMode", "clipPathUnits",
  "diffuseConstant", "edgeMode", "filterUnits", "glyphRef", "gradientTransform",
  "gradientUnits", "kernelMatrix", "kernelUnitLength", "keyPoints", "keySplines", "keyTimes",
  "lengthAdjust", "limitingConeAngle", "markerHeight", "markerUnits", "markerWidth",
  "maskContentUnits", "maskUnits", "numOctaves", "pathLength", "patternContentUnits",
  "patternTransform", "patternUnits", "pointsAtX", "pointsAtY", "pointsAtZ", "preserveAlpha",
  "preserveAspectRatio", "primitiveUnits", "refX", "refY", "repeatCount", "repeatDur",
  "requiredExtensions", "requiredFeatures", "specularConstant", "specularExponent",
  "spreadMethod", "startOffset", "stdDeviation", "stitchTiles", "surfaceScale",
  "systemLanguage", "tableValues", "targetX", "targetY", "textLength", "viewBox", "viewTarget",
  "xChannelSelector", "yChannelSelector", "zoomAndPan"]

/-- A name in the spelling of a list of names. -/
def respell (names : List String) (name : String) : String :=
  (names.find? (Text.sameName · name)).getD name

/-- An attribute name in the spelling of a vocabulary. -/
def attributeName (space : Space) (name : String) : String :=
  match space with
  | .html => name
  | .svg => respell svgAttributes name
  | .math => respell ["definitionURL"] name

/-- An attribute of an element of a vocabulary. -/
def foreignAttribute (space : Space) (name value : String) : Attribute :=
  match spaceAttributes.find? (·.1 == attributeName space name) with
  | some (_, space, name) => ⟨some space, name, value⟩
  | none => ⟨none, attributeName space name, value⟩

/-- Inserts an element of a vocabulary; it stays open unless its tag closes it. -/
def insertForeign (b : Builder) (space : Space) (tag : Tag) : Builder :=
  let attributes := tag.attributes.map fun (name, value) => foreignAttribute space name value
  let (_, b) := b.insertAndOpen space tag.name attributes
  if tag.selfClosing then b.pop else b

/-! ## Opening tags -/

/-- Places an opening tag in the body by the rules for running text and forms. -/
def bodyInlineTag (b : Builder) (tag : Tag) : Builder :=
  let name := tag.name
  if name = "a" then b.closeLink.reopenFormatting.insertFormatting tag
  else if formattingTags.contains name then b.reopenFormatting.insertFormatting tag
  else if name = "nobr" then
    let b := b.reopenFormatting
    let b := if b.inScope ["nobr"] then (b.closeFormatting "nobr").reopenFormatting else b
    b.insertFormatting tag
  else if holderTags.contains name then
    let b := (b.reopenFormatting.insert tag).keepBody
    { b with formatting := .marker :: b.formatting }
  else if inlineVoidTags.contains name then b.insertInlineVoid tag
  else if name = "input" then
    let inserted := b.reopenFormatting.insertVoid tag
    if isHidden tag then inserted else inserted.keepBody
  else if describingVoidTags.contains name then b.insertVoid tag
  else if name = "image" then b.insertInlineVoid { tag with name := "img" }
  else if name = "textarea" then
    { b.insertText tag (.references name) with skipNewline := true, framesetOk := false }
  else if name = "iframe" then b.keepBody.insertText tag (.raw name)
  else if name = "noembed" || name = "noscript" then b.insertText tag (.raw name)
  else if name = "select" then b.openSelect tag
  else if name = "optgroup" || name = "option" then
    let b := if b.current ["option"] then b.pop else b
    b.reopenFormatting.insert tag
  else if name = "rb" || name = "rtc" then
    (if b.inScope ["ruby"] then b.closeImplied "" else b).insert tag
  else if name = "rp" || name = "rt" then
    (if b.inScope ["ruby"] then b.closeImplied "rtc" else b).insert tag
  else if name = "math" then b.insertForeign .math tag
  else if name = "svg" then b.insertForeign .svg tag
  else if misplacedTags.contains name then b
  else b.reopenFormatting.insert tag

/-- Places an opening tag in the body. -/
def bodyTag (b : Builder) (tag : Tag) : Builder :=
  let name := tag.name
  if name = "html" then b.mergeRoot tag
  else if headTags.contains name then (b.headTag? tag).getD b
  else if name = "body" then b.mergeBody tag
  else if name = "frameset" then b.replaceBody tag
  else if name = "p" || blockTags.contains name then b.closeParagraph.insert tag
  else if headingTags.contains name then
    let b := b.closeParagraph
    (if b.current headingTags then b.pop else b).insert tag
  else if name = "pre" || name = "listing" then
    { (b.closeParagraph.insert tag).keepBody with skipNewline := true }
  else if name = "form" then b.openForm tag
  else if ["li", "dd", "dt"].contains name then b.openItem tag
  else if name = "plaintext" then { b.closeParagraph.insert tag with textMode := .plain }
  else if name = "button" then b.openButton tag
  else if name = "table" then
    (((if b.oldRules then b else b.closeParagraph).insert tag).keepBody).withMode .inTable
  else if name = "hr" then (b.closeParagraph.insertVoid tag).keepBody
  else if name = "xmp" then
    (b.closeParagraph.reopenFormatting.keepBody).insertText tag (.raw name)
  else b.bodyInlineTag tag

/-! ## Closing tags -/

/-- Places a closing tag in the body, other than those of the body and the root. -/
def bodyClosing (b : Builder) (name : String) : Builder :=
  if name = "template" then b.closeTemplate
  else if blockEndTags.contains name then b.closeInScope name
  else if name = "form" then b.closeForm
  else if name = "p" then b.closeOrInsertParagraph
  else if name = "li" then if b.inListScope ["li"] then b.closeElement "li" else b
  else if name = "dd" || name = "dt" then if b.inScope [name] then b.closeElement name else b
  else if headingTags.contains name then b.closeHeading
  else if name = "a" || name = "nobr" || formattingTags.contains name then b.closeFormatting name
  else if holderTags.contains name then
    if b.inScope [name] then (b.closeInScope name).clearFormatting else b
  else if name = "br" then b.insertInlineVoid { name := "br" }
  else (b.closeAny name)

/-! ## The rules -/

/-- What the end of the page does to the open templates: they are closed one
after the other. -/
def finishTemplate (b : Builder) : Outcome :=
  if b.hasOpenTemplate then
    let b := (b.popThrough ["template"]).clearFormatting
    .again ({ b with templateModes := b.templateModes.drop 1 }.resetMode)
  else .done b

/-- The rules in the body. -/
def bodyStep (b : Builder) (token : Token) : Outcome :=
  match token with
  | .char c => .done (b.bodyChar c)
  | .comment text => .done (b.insertComment text)
  | .opening tag => .done (b.bodyTag tag)
  | .closing name =>
    if name = "body" then .done (if b.inScope ["body"] then b.withMode .afterBody else b)
    else if name = "html" then
      if b.inScope ["body"] then .again (b.withMode .afterBody) else .done b
    else .done (b.bodyClosing name)
  | .doctype _ | .fault => .done b
  | .finish => if b.templateModes.isEmpty then .done b else b.finishTemplate

/-- The rules in an element whose content is not markup. Reading begins anew behind a
script. -/
def textStep (b : Builder) (token : Token) : Outcome :=
  match token with
  | .char c => .done (b.insertChar c)
  | .closing name => .done { b.pop.withMode b.returnMode with skipMark := name == "script" }
  | .finish => .again (b.pop.withMode b.returnMode)
  | _ => .done b

end Expectation.Html.Builder
