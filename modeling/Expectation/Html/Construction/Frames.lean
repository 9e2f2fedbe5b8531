import Expectation.Html.Construction.Table

/-!
# Templates, frames, and what follows the body

The rules for the content of a template, for pages that consist of frames, and
for what comes behind the body: text there is put back into the body, and
comments are put at the end.
-/

namespace Expectation.Html.Builder

/-! ## Templates -/

/-- The mode that the first tag in a template asks for. -/
def templateMode (name : String) : Mode :=
  if ["caption", "colgroup", "tbody", "tfoot", "thead"].contains name then .inTable
  else if name = "col" then .inColumnGroup
  else if name = "tr" then .inTableBody
  else if cellTags.contains name then .inRow
  else .inBody

/-- The rules in a template before its first tag. -/
def templateStep (b : Builder) (token : Token) : Outcome :=
  match token with
  | .char c => if c = '\x00' then .done b else b.bodyStep token
  | .comment _ => b.bodyStep token
  | .opening tag =>
    if headTags.contains tag.name then .done ((b.headTag? tag).getD b)
    else
      let mode := templateMode tag.name
      .again { b with templateModes := mode :: b.templateModes.drop 1, mode }
  | .closing name => if name = "template" then .done b.closeTemplate else .done b
  | .finish => b.finishTemplate
  | .doctype _ | .fault => .done b

/-! ## Behind the body -/

/-- The rules behind the body. -/
def afterBodyStep (b : Builder) (token : Token) : Outcome :=
  let back : Outcome := .again (b.withMode .inBody)
  match token with
  | .char c => if isFiller c then b.bodyStep token else back
  | .comment text => .done (b.commentInRoot text)
  | .opening tag => if tag.name = "html" then .done (b.mergeRoot tag) else back
  | .closing name => if name = "html" then .done (b.withMode .afterAfterBody) else back
  | .finish => .done b
  | .doctype _ | .fault => .done b

/-- The rules behind the root element. -/
def afterAfterBodyStep (b : Builder) (token : Token) : Outcome :=
  let back : Outcome := .again (b.withMode .inBody)
  match token with
  | .char c => if isFiller c then b.bodyStep token else back
  | .comment text => .done (b.commentOnPage text)
  | .opening tag => if tag.name = "html" then .done (b.mergeRoot tag) else back
  | .closing _ => back
  | .finish => .done b
  | .doctype _ | .fault => .done b

/-! ## Frames -/

/-- The rules in a set of frames. -/
def framesetStep (b : Builder) (token : Token) : Outcome :=
  match token with
  | .char c => .done (if isFiller c then b.insertChar c else b)
  | .comment text => .done (b.insertComment text)
  | .opening tag =>
    .done (
      if tag.name = "html" then b.mergeRoot tag
      else if tag.name = "frameset" then b.insert tag
      else if tag.name = "frame" then b.insertVoid tag
      else if tag.name = "noframes" then b.insertText tag (.raw tag.name)
      else b)
  | .closing name =>
    if name = "frameset" && 1 < b.opened.length then
      let b := b.pop
      .done (if b.current ["frameset"] then b else b.withMode .afterFrameset)
    else .done b
  | .finish => .done b
  | .doctype _ | .fault => .done b

/-- The rules behind a set of frames. -/
def afterFramesetStep (b : Builder) (token : Token) : Outcome :=
  match token with
  | .char c => .done (if isFiller c then b.insertChar c else b)
  | .comment text => .done (b.insertComment text)
  | .opening tag =>
    .done (
      if tag.name = "html" then b.mergeRoot tag
      else if tag.name = "noframes" then b.insertText tag (.raw tag.name)
      else b)
  | .closing name => .done (if name = "html" then b.withMode .afterAfterFrameset else b)
  | .finish => .done b
  | .doctype _ | .fault => .done b

/-- The rules behind the root element of a page of frames. -/
def afterAfterFramesetStep (b : Builder) (token : Token) : Outcome :=
  match token with
  | .char c => if isFiller c then b.bodyStep token else .done b
  | .comment text => .done (b.commentOnPage text)
  | .opening tag =>
    .done (
      if tag.name = "html" then b.mergeRoot tag
      else if tag.name = "noframes" then b.insertText tag (.raw tag.name)
      else b)
  | _ => .done b

end Expectation.Html.Builder
