import Expectation.Html.Construction.Body

/-!
# Tables and selections

The rules inside tables put in the row groups, rows and column groups that are
missing, and foster whatever does not belong into a table. A selection holds
options and text only; a part of a table ends a selection inside it.
-/

namespace Expectation.Html.Builder

/-! ## Fostering -/

/-- Places a token in front of the table by the rules of the body. -/
def foster (b : Builder) (token : Token) : Outcome :=
  match { b with fostering := true }.bodyStep token with
  | .done b => .done { b with fostering := false }
  | .again b => .again { b with fostering := false }

/-- Begins to collect text in a table, or fosters a character where no table is
around it. -/
def tableChar (b : Builder) (c : Char) : Outcome :=
  if b.current tablePartTags then
    .again { b with returnMode := b.mode, mode := .inTableText, pending := [] }
  else b.foster (.char c)

/-- Places a collected character: text with other characters than fillers is
fostered. -/
def fosterChar (b : Builder) (c : Char) : Builder :=
  { { b with fostering := true }.bodyChar c with fostering := false }

/-- Places the collected text. -/
def placePending (b : Builder) : Builder :=
  let chars := b.pending.reverse
  let b := { b with pending := [] }
  if chars.all isFiller then chars.foldl insertChar b else chars.foldl fosterChar b

/-- The rules while text is collected in a table. -/
def tableTextStep (b : Builder) (token : Token) : Outcome :=
  match token with
  | .char c => .done (if c = '\x00' then b else { b with pending := c :: b.pending })
  | _ => .again (b.placePending.withMode b.returnMode)

/-! ## Parts of a table -/

/-- The elements that a row group, a row, and the parts of a row group stand in. -/
def rowGroupPlaceTags : List String := rowGroupTags ++ ["template", "html"]

def rowPlaceTags : List String := ["tr", "template", "html"]

/-- The tags of the parts of a table outside its cells. -/
def outerPartTags : List String := ["caption", "col", "colgroup", "tbody", "tfoot", "thead"]

/-- The rules for an opening tag in a table, if there is one for it. -/
def tableTag? (b : Builder) (tag : Tag) : Option Outcome :=
  let name := tag.name
  let table := b.popTo tableScopeTags
  if name = "caption" then
    some (.done (({ table with formatting := .marker :: b.formatting }.insert tag).withMode
      .inCaption))
  else if name = "colgroup" then some (.done ((table.insert tag).withMode .inColumnGroup))
  else if name = "col" then
    some (.again ((table.insertImplied "colgroup").withMode .inColumnGroup))
  else if rowGroupTags.contains name then some (.done ((table.insert tag).withMode .inTableBody))
  else if name = "tr" || cellTags.contains name then
    some (.again ((table.insertImplied "tbody").withMode .inTableBody))
  else if name = "table" then
    some (if b.inTableScope ["table"] then .again (b.popThrough ["table"]).resetMode else .done b)
  else if ["style", "script", "template"].contains name then some (.done ((b.headTag? tag).getD b))
  else if name = "input" && isHidden tag then some (.done (b.insertVoid tag))
  else if name = "form" then
    if b.hasOpenTemplate || b.form.isSome then some (.done b)
    else
      let (i, b) := b.insertAndOpen .html tag.name (plainAttributes tag)
      some (.done { b.pop with form := some i })
  else none

/-- The closing tags without an effect between the parts of a table. -/
def idleClosings : List String :=
  ["body", "caption", "col", "colgroup", "html", "tbody", "td", "tfoot", "th", "thead", "tr"]

/-- The rules in a table. -/
def tableStep (b : Builder) (token : Token) : Outcome :=
  match token with
  | .char c => b.tableChar c
  | .comment text => .done (b.insertComment text)
  | .opening tag => (b.tableTag? tag).getD (b.foster token)
  | .closing name =>
    if name = "table" then
      .done (if b.inTableScope ["table"] then (b.popThrough ["table"]).resetMode else b)
    else if idleClosings.contains name then .done b
    else if name = "template" then .done b.closeTemplate
    else b.foster token
  | .finish => b.bodyStep token
  | .doctype _ | .fault => .done b

/-- Closes the caption. -/
def closeCaption (b : Builder) : Builder :=
  (((b.closeImplied "").popThrough ["caption"]).clearFormatting).withMode .inTable

/-- The rules in the caption of a table. -/
def captionStep (b : Builder) (token : Token) : Outcome :=
  match token with
  | .opening tag =>
    if outerPartTags.contains tag.name || cellTags.contains tag.name || tag.name = "tr" then
      if b.inTableScope ["caption"] then .again b.closeCaption else .done b
    else b.bodyStep token
  | .closing name =>
    if name = "caption" then
      .done (if b.inTableScope ["caption"] then b.closeCaption else b)
    else if name = "table" then
      if b.inTableScope ["caption"] then .again b.closeCaption else .done b
    else if idleClosings.contains name then .done b
    else b.bodyStep token
  | token => b.bodyStep token

/-- The rules in a group of columns. -/
def columnGroupStep (b : Builder) (token : Token) : Outcome :=
  let leave : Outcome :=
    if b.current ["colgroup"] then .again (b.pop.withMode .inTable) else .done b
  match token with
  | .char c => if isFiller c then .done (b.insertChar c) else leave
  | .comment text => .done (b.insertComment text)
  | .opening tag =>
    if tag.name = "html" then .done (b.mergeRoot tag)
    else if tag.name = "col" then .done (b.insertVoid tag)
    else if tag.name = "template" then .done (b.openTemplate tag)
    else leave
  | .closing name =>
    if name = "colgroup" then
      .done (if b.current ["colgroup"] then b.pop.withMode .inTable else b)
    else if name = "col" then .done b
    else if name = "template" then .done b.closeTemplate
    else leave
  | .finish => b.bodyStep token
  | .doctype _ | .fault => .done b

/-- The rules in a row group. -/
def rowGroupStep (b : Builder) (token : Token) : Outcome :=
  let place := b.popTo rowGroupPlaceTags
  let leave : Outcome :=
    if b.inTableScope ["table", "tbody", "tfoot"] then .again (place.pop.withMode .inTable)
    else .done b
  match token with
  | .opening tag =>
    if tag.name = "tr" then .done ((place.insert tag).withMode .inRow)
    else if cellTags.contains tag.name then .again ((place.insertImplied "tr").withMode .inRow)
    else if outerPartTags.contains tag.name then leave
    else b.tableStep token
  | .closing name =>
    if rowGroupTags.contains name then
      .done (if b.inTableScope [name] then place.pop.withMode .inTable else b)
    else if name = "table" then leave
    else if idleClosings.contains name then .done b
    else b.tableStep token
  | token => b.tableStep token

/-- The rules in a row. -/
def rowStep (b : Builder) (token : Token) : Outcome :=
  let place := b.popTo rowPlaceTags
  let rowOpen := b.inTableScope ["tr"]
  let leave : Outcome := if rowOpen then .again (place.pop.withMode .inTableBody) else .done b
  match token with
  | .opening tag =>
    if cellTags.contains tag.name then
      let b := (place.insert tag).withMode .inCell
      .done { b with formatting := .marker :: b.formatting }
    else if outerPartTags.contains tag.name || tag.name = "tr" then leave
    else b.tableStep token
  | .closing name =>
    if name = "tr" then .done (if rowOpen then place.pop.withMode .inTableBody else b)
    else if name = "table" then leave
    else if rowGroupTags.contains name then if b.inTableScope [name] then leave else .done b
    else if idleClosings.contains name then .done b
    else b.tableStep token
  | token => b.tableStep token

/-- Closes the cell, whichever kind is open. -/
def closeCell (b : Builder) : Builder :=
  (((b.closeImplied "").popThrough cellTags).clearFormatting).withMode .inRow

/-- The rules in a cell. -/
def cellStep (b : Builder) (token : Token) : Outcome :=
  match token with
  | .opening tag =>
    if outerPartTags.contains tag.name || cellTags.contains tag.name || tag.name = "tr" then
      if b.inTableScope cellTags then .again b.closeCell else .done b
    else b.bodyStep token
  | .closing name =>
    if cellTags.contains name then
      if b.inTableScope [name] then
        .done ((((b.closeImplied "").popThrough [name]).clearFormatting).withMode .inRow)
      else .done b
    else if name = "table" || name = "tr" || rowGroupTags.contains name then
      if b.inTableScope [name] then .again b.closeCell else .done b
    else if idleClosings.contains name then .done b
    else b.bodyStep token
  | token => b.bodyStep token

/-! ## Selections -/

/-- Closes the selection. -/
def closeSelect (b : Builder) : Builder := (b.popThrough ["select"]).resetMode

/-- Closes the option that is innermost. -/
def closeOption (b : Builder) : Builder := if b.current ["option"] then b.pop else b

/-- Closes the option and the group of options that are innermost. -/
def closeOptions (b : Builder) : Builder :=
  let b := b.closeOption
  if b.current ["optgroup"] then b.pop else b

/-- The rules in a selection. -/
def selectStep (b : Builder) (token : Token) : Outcome :=
  match token with
  | .char c => .done (if c = '\x00' then b else b.insertChar c)
  | .comment text => .done (b.insertComment text)
  | .opening tag =>
    let name := tag.name
    if name = "html" then .done (b.mergeRoot tag)
    else if name = "option" then .done (b.closeOption.insert tag)
    else if name = "optgroup" then .done (b.closeOptions.insert tag)
    else if name = "hr" then .done (b.closeOptions.insertVoid tag)
    else if name = "select" then
      .done (if b.inSelectScope ["select"] then b.closeSelect else b)
    else if ["input", "keygen", "textarea"].contains name then
      if b.inSelectScope ["select"] then .again b.closeSelect else .done b
    else if name = "script" || name = "template" then .done ((b.headTag? tag).getD b)
    else .done b
  | .closing name =>
    if name = "optgroup" then
      let inGroup := ((b.opened.drop 1).head?).any (b.isAny ["optgroup"])
      let b := if b.current ["option"] && inGroup then b.pop else b
      .done (if b.current ["optgroup"] then b.pop else b)
    else if name = "option" then .done b.closeOption
    else if name = "select" then
      .done (if b.inSelectScope ["select"] then b.closeSelect else b)
    else if name = "template" then .done b.closeTemplate
    else .done b
  | .finish => b.bodyStep token
  | .doctype _ | .fault => .done b

/-- The tags that end a selection inside a table. -/
def tablePartNames : List String :=
  ["caption", "table", "tbody", "tfoot", "thead", "tr", "td", "th"]

/-- The rules in a selection inside a table. -/
def selectInTableStep (b : Builder) (token : Token) : Outcome :=
  match token with
  | .opening tag =>
    if tablePartNames.contains tag.name then .again b.closeSelect else b.selectStep token
  | .closing name =>
    if tablePartNames.contains name then
      if b.inTableScope [name] then .again b.closeSelect else .done b
    else b.selectStep token
  | token => b.selectStep token

end Expectation.Html.Builder
