import Expectation.Html.Construction.Formatting

/-!
# The head of a page

The rules from the front of a page to the beginning of its body. The root, the
head and the body are there in every page; where their tags are missing they are
put in.
-/

namespace Expectation.Html

namespace Doctype

/-- The beginnings of public identifiers of page formats that were replaced,
in small letters. -/
def oldPublicFronts : List String := [
  "+//silmaril//dtd html pro v0r11 19970101//",
  "-//advasoft ltd//dtd html 3.0 aswedit + extensions//",
  "-//as//dtd html 3.0 aswedit + extensions//",
  "-//ietf//dtd html//", "-//ietf//dtd html 2.0//", "-//ietf//dtd html 2.0 level 1//",
  "-//ietf//dtd html 2.0 level 2//", "-//ietf//dtd html 2.0 strict level 1//",
  "-//ietf//dtd html 2.0 strict level 2//", "-//ietf//dtd html 2.0 strict//",
  "-//ietf//dtd html 2.1e//", "-//ietf//dtd html 3.0//", "-//ietf//dtd html 3.2 final//",
  "-//ietf//dtd html 3.2//", "-//ietf//dtd html 3//", "-//ietf//dtd html level 0//",
  "-//ietf//dtd html level 1//", "-//ietf//dtd html level 2//", "-//ietf//dtd html level 3//",
  "-//ietf//dtd html strict level 0//", "-//ietf//dtd html strict level 1//",
  "-//ietf//dtd html strict level 2//", "-//ietf//dtd html strict level 3//",
  "-//ietf//dtd html strict//", "-//metrius//dtd metrius presentational//",
  "-//microsoft//dtd internet explorer 2.0 html strict//",
  "-//microsoft//dtd internet explorer 2.0 html//",
  "-//microsoft//dtd internet explorer 2.0 tables//",
  "-//microsoft//dtd internet explorer 3.0 html strict//",
  "-//microsoft//dtd internet explorer 3.0 html//",
  "-//microsoft//dtd internet explorer 3.0 tables//", "-//netscape comm. corp.//dtd html//",
  "-//netscape comm. corp.//dtd strict html//", "-//o'reilly and associates//dtd html 2.0//",
  "-//o'reilly and associates//dtd html extended 1.0//",
  "-//o'reilly and associates//dtd html extended relaxed 1.0//",
  "-//softquad software//dtd hotmetal pro 6.0::19990601::extensions to html 4.0//",
  "-//softquad//dtd hotmetal pro 4.0::19971010::extensions to html 4.0//",
  "-//spyglass//dtd html 2.0 extended//", "-//sq//dtd html 2.0 hotmetal + extensions//",
  "-//sun microsystems corp.//dtd hotjava html//",
  "-//sun microsystems corp.//dtd hotjava strict html//", "-//w3c//dtd html 3 1995-03-24//",
  "-//w3c//dtd html 3.2 draft//", "-//w3c//dtd html 3.2 final//", "-//w3c//dtd html 3.2//",
  "-//w3c//dtd html 3.2s draft//", "-//w3c//dtd html 4.0 frameset//",
  "-//w3c//dtd html 4.0 transitional//", "-//w3c//dtd html experimental 19960712//",
  "-//w3c//dtd html experimental 970421//", "-//w3c//dtd w3 html//",
  "-//w3o//dtd w3 html 3.0//", "-//webtechs//dtd mozilla html 2.0//",
  "-//webtechs//dtd mozilla html//"]

/-- The public identifiers of such formats that count as a whole. -/
def oldPublicIds : List String := [
  "-//w3o//dtd w3 html strict 3.0//en//", "-/w3c/dtd html 4.0 transitional/en", "html"]

/-- The system identifiers of such formats. -/
def oldSystemIds : List String :=
  ["http://www.ibm.com/data/dtd/v11/ibmxhtml1-transitional.dtd"]

/-- The beginnings of public identifiers that stand for an old format only
without a system identifier. -/
def loosePublicFronts : List String := [
  "-//w3c//dtd html 4.01 frameset//", "-//w3c//dtd html 4.01 transitional//"]

/-- Whether a declaration says that the page is written for old rules. -/
def isOld (d : Doctype) : Bool :=
  let fronts (texts : List String) (id : List Char) : Bool :=
    texts.any fun t => t.toList.isPrefixOf id
  d.faulty || d.name != some "html" ||
    (d.systemId.map Text.lowerName).any (fun id => oldSystemIds.any (·.toList == id)) ||
    match d.publicId.map Text.lowerName with
    | none => false
    | some id =>
      oldPublicIds.any (·.toList == id) || fronts oldPublicFronts id ||
        (d.systemId.isNone && fronts loosePublicFronts id)

end Doctype

namespace Builder

/-! ## Before the head -/

/-- The characters between tags that mean nothing. -/
def isFiller (c : Char) : Bool := isGap c || c == '\r'

/-- Opens the root element. -/
def insertRoot (b : Builder) (tag : Tag) : Builder :=
  let (i, b) := b.createElement .html "html" (plainAttributes tag)
  { b with store := b.store.append Store.page i, opened := i :: b.opened }

/-- A second tag of the root adds its attributes to the first. -/
def mergeRoot (b : Builder) (tag : Tag) : Builder :=
  if b.hasOpenTemplate then b else
  match b.opened.getLast? with
  | some i => b.addAttributes i tag
  | none => b

/-- A declaration of the document type, which counts only in front of all else. -/
def placeDoctype (b : Builder) (d : Doctype) : Builder :=
  if b.mode = .initial then
    let (i, store) := b.store.create (.doctype (d.name.getD ""))
    { b with store := store.append Store.page i, oldRules := d.isOld, mode := .beforeRoot }
  else b

/-- The rules in front of a page. -/
def initialStep (b : Builder) (token : Token) : Outcome :=
  let implied : Outcome := .again { b with oldRules := true, mode := .beforeRoot }
  match token with
  | .char c => if isFiller c then .done b else implied
  | .comment text => .done (b.commentOnPage text)
  | _ => implied

/-- The closing tags that open what they close where it has not been opened. -/
def rootClosings : List String := ["head", "body", "html", "br"]

/-- The rules in front of the root element. -/
def beforeRootStep (b : Builder) (token : Token) : Outcome :=
  let implied : Outcome := .again ((b.insertRoot { name := "html" }).withMode .beforeHead)
  match token with
  | .char c => if isFiller c then .done b else implied
  | .comment text => .done (b.commentOnPage text)
  | .opening tag =>
    if tag.name = "html" then .done ((b.insertRoot tag).withMode .beforeHead) else implied
  | .closing name => if rootClosings.contains name then implied else .done b
  | _ => implied

/-- Opens the head. -/
def openHead (b : Builder) (tag : Tag) : Builder :=
  let (i, b) := b.insertAndOpen .html tag.name (plainAttributes tag)
  { b with head := some i, mode := .inHead }

/-- The rules in front of the head. -/
def beforeHeadStep (b : Builder) (token : Token) : Outcome :=
  let implied : Outcome := .again (b.openHead { name := "head" })
  match token with
  | .char c => if isFiller c then .done b else implied
  | .comment text => .done (b.insertComment text)
  | .opening tag =>
    if tag.name = "html" then .done (b.mergeRoot tag)
    else if tag.name = "head" then .done (b.openHead tag)
    else implied
  | .closing name => if rootClosings.contains name then implied else .done b
  | _ => implied

/-! ## In the head -/

/-- The elements of the head that have no content. -/
def headVoidTags : List String := ["base", "basefont", "bgsound", "link", "meta"]

/-- The elements of the head that are not shown. -/
def headRawTags : List String := ["noframes", "style", "noscript"]

/-- The tags that are placed by the rules of the head wherever they come. -/
def headTags : List String :=
  headVoidTags ++ ["noframes", "script", "style", "template", "title"]

/-- Opens a template. -/
def openTemplate (b : Builder) (tag : Tag) : Builder :=
  let b := b.insert tag
  { b with
    formatting := .marker :: b.formatting
    framesetOk := false
    mode := .inTemplate
    templateModes := .inTemplate :: b.templateModes }

/-- The elements that end with a template. -/
def templateEndTags : List String :=
  impliedEndTags ++ ["caption", "colgroup", "tbody", "td", "tfoot", "th", "thead", "tr"]

/-- Closes a template. -/
def closeTemplate (b : Builder) : Builder :=
  if b.hasOpenTemplate then
    let b := { b with opened := b.opened.dropWhile (b.isAny templateEndTags) }
    let b := (b.popThrough ["template"]).clearFormatting
    { b with templateModes := b.templateModes.drop 1 }.resetMode
  else b

/-- Places an opening tag by the rules of the head, if it belongs there. -/
def headTag? (b : Builder) (tag : Tag) : Option Builder :=
  if headVoidTags.contains tag.name then some (b.insertVoid tag)
  else if tag.name = "title" then some (b.insertText tag (.references tag.name))
  else if headRawTags.contains tag.name then some (b.insertText tag (.raw tag.name))
  else if tag.name = "script" then some (b.insertText tag .script)
  else if tag.name = "template" then some (b.openTemplate tag)
  else none

/-- The rules in the head. -/
def headStep (b : Builder) (token : Token) : Outcome :=
  let leave : Outcome := .again (b.pop.withMode .afterHead)
  match token with
  | .char c => if isFiller c then .done (b.insertChar c) else leave
  | .comment text => .done (b.insertComment text)
  | .opening tag =>
    if tag.name = "html" then .done (b.mergeRoot tag)
    else if tag.name = "head" then .done b
    else match b.headTag? tag with
      | some b => .done b
      | none => leave
  | .closing name =>
    if name = "head" then .done (b.pop.withMode .afterHead)
    else if name = "template" then .done b.closeTemplate
    else if ["body", "html", "br"].contains name then leave
    else .done b
  | _ => leave

/-! ## Behind the head -/

/-- Places an opening tag in the head after the head has been closed. -/
def headTagLate (b : Builder) (tag : Tag) : Builder :=
  match b.head with
  | none => b
  | some head =>
    match { b with opened := head :: b.opened }.headTag? tag with
    | some b => b.removeOpen head
    | none => b

/-- The rules between the head and the body. -/
def afterHeadStep (b : Builder) (token : Token) : Outcome :=
  let implied : Outcome := .again ((b.insertImplied "body").withMode .inBody)
  match token with
  | .char c => if isFiller c then .done (b.insertChar c) else implied
  | .comment text => .done (b.insertComment text)
  | .opening tag =>
    if tag.name = "html" then .done (b.mergeRoot tag)
    else if tag.name = "body" then .done ((b.insert tag).keepBody.withMode .inBody)
    else if tag.name = "frameset" then .done ((b.insert tag).withMode .inFrameset)
    else if headTags.contains tag.name then .done (b.headTagLate tag)
    else if tag.name = "head" then .done b
    else implied
  | .closing name =>
    if name = "template" then .done b.closeTemplate
    else if ["body", "html", "br"].contains name then implied
    else .done b
  | _ => implied

end Builder

end Expectation.Html
