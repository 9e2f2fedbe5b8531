import Expectation.Html.Construction.Foreign

/-!
# The tree of a page

The tree that the text of a page denotes. Tokens are taken from the text one
step at a time and placed one after the other; how the text is read on depends
on the tree so far. Every text denotes a tree.

A token may have to be placed several times, because a rule only closes what is
in its way. Each time elements are closed or the mode moves on, and the number
of rounds is bounded by the number of open elements.
-/

namespace Expectation.Html

namespace Builder

/-- Places a token by the rules of the mode. -/
def modeStep (b : Builder) (token : Token) : Outcome :=
  match b.mode with
  | .initial => b.initialStep token
  | .beforeRoot => b.beforeRootStep token
  | .beforeHead => b.beforeHeadStep token
  | .inHead => b.headStep token
  | .afterHead => b.afterHeadStep token
  | .inBody => b.bodyStep token
  | .inText => b.textStep token
  | .inTable => b.tableStep token
  | .inTableText => b.tableTextStep token
  | .inCaption => b.captionStep token
  | .inColumnGroup => b.columnGroupStep token
  | .inTableBody => b.rowGroupStep token
  | .inRow => b.rowStep token
  | .inCell => b.cellStep token
  | .inSelect => b.selectStep token
  | .inSelectInTable => b.selectInTableStep token
  | .inTemplate => b.templateStep token
  | .afterBody => b.afterBodyStep token
  | .inFrameset => b.framesetStep token
  | .afterFrameset => b.afterFramesetStep token
  | .afterAfterBody => b.afterAfterBodyStep token
  | .afterAfterFrameset => b.afterAfterFramesetStep token

/-- Places a token, in rounds. -/
def rounds : Nat → Builder → Token → Builder
  | 0, b, _ => b
  | fuel + 1, b, token =>
    match (if b.isForeign token then b.foreignStep modeStep token else b.modeStep token) with
    | .done b => b
    | .again b => rounds fuel b token

/-- Places a token. -/
def accept (b : Builder) (token : Token) : Builder :=
  let skip := b.skipNewline
  let b := { b with skipNewline := false }
  match token with
  | .doctype d => b.placeDoctype d
  | .fault => b
  | .char c =>
    if skip && c = '\n' then b else rounds (4 * b.opened.length + 16) b token
  | token => rounds (4 * b.opened.length + 16) b token

/-- Places the tokens of a text, step by step; `fuel` bounds the steps. -/
def read : Nat → Builder → List Char → Builder
  | 0, b, _ => b
  | fuel + 1, b, cs =>
    let (tokens, rest) := Token.next b.textMode b.inForeign cs
    let b := tokens.foldl accept { b with textMode := .markup, skipMark := false }
    let rest := if b.skipMark then withoutMark rest else rest
    if tokens.contains .finish then b else read fuel b rest

end Builder

namespace Tree

/-- The parts of the page that a text denotes. A step takes at least one
character or ends the content of an element. -/
def ofText (text : String) : List Tree :=
  let cs := pageText text
  (Builder.read (2 * cs.length + 2) {} cs).store.content

end Tree

end Expectation.Html
