import Expectation.Html.Construction
import Expectation.Proofs.Html.Markup

/-!
# Where elements may stand

By which rules a token is placed, and what it does to the elements around it, depends on which
elements are open.  A tag may do more than open or close its own element: it may end a paragraph, an
item of a list or a heading, open formatting again, close a cell, or leave a drawing.  Here are the
places where it does none of this.  They are told by the vocabularies and the tags of the open
elements alone, innermost first.

## Main definitions

* `modeOf`, `rulesIn`: the mode and the rules that open elements ask for.
* `opensIn`, `standsIn`, `unmarkedIn`: the elements that are read as they are written.
-/

namespace Expectation.Html

open Builder (inScopeOf tablePartTags)

/-- The vocabulary and the tag of an element. -/
abbrev Label := Space × String

namespace Label

/-- Whether an element of the page's own vocabulary has one of some tags. -/
def isAny (tags : List String) : Label → Bool
  | (.html, tag) => tags.contains tag
  | _ => false

def isMathText : Label → Bool
  | (.math, tag) => Builder.mathTextTags.contains tag
  | _ => false

def isSvgHolder : Label → Bool
  | (.svg, tag) => Builder.svgHolderTags.contains tag
  | _ => false

/-- Whether an element ends a scope of running text; some scopes have more ends. -/
def endsScope (more : List String) (l : Label) : Bool :=
  isAny Builder.scopeTags l || isAny more l || isMathText l || isSvgHolder l

theorem isAny_of_ne_html {space : Space} (h : space ≠ .html) (tags : List String) (tag : String) :
    isAny tags (space, tag) = false := by
  cases space with
  | html => exact absurd rfl h
  | svg | math => rfl

/-- What is not among some tags is not among fewer. -/
theorem isAny_eq_false_of_subset {tags tags' : List String} (hsub : tags ⊆ tags') {l : Label}
    (h : isAny tags' l = false) : isAny tags l = false := by
  obtain ⟨space, tag⟩ := l
  cases space with
  | html =>
      simp only [isAny, List.contains_eq_mem, decide_eq_false_iff_not] at h ⊢
      exact fun hmem => h (hsub hmem)
  | svg | math => rfl

end Label

/-! ## Questions about open elements -/

/-- Whether an element of a tag is in scope. -/
def isInScope (more : List String) (tag : String) (outer : List Label) : Bool :=
  inScopeOf (Label.endsScope more) (Label.isAny [tag]) outer

/-- Whether a paragraph is open that a block would end. -/
def paragraphOpen (outer : List Label) : Bool := isInScope ["button"] "p" outer

/-- Whether the innermost open element has one of some tags. -/
def isInnermost (tags : List String) (outer : List Label) : Bool :=
  outer.head?.any (Label.isAny tags)

/-- Whether an item of a list would end another one. -/
def endsItem (tags : List String) : List Label → Bool
  | [] => false
  | l :: outer =>
    Label.isAny tags l || (!(Label.isAny Builder.specialTags l &&
      !Label.isAny ["address", "div", "p"] l) && endsItem tags outer)

/-- The formatting elements and links. -/
def formattingNames : List String := "a" :: "nobr" :: Builder.formattingTags

/-- The elements that formatting does not enter. -/
def markerTags : List String := Builder.holderTags ++ Builder.cellTags ++ ["caption"]

/-- The open elements that formatting may have to be opened again in. -/
def recent (outer : List Label) : List Label := outer.takeWhile fun l => !Label.isAny markerTags l

/-- The mode for a selection inside some elements. -/
def selectModeOf : List Label → Mode
  | [] => .inSelect
  | l :: outer => if Label.isAny ["table"] l then .inSelectInTable else selectModeOf outer

/-- The elements that ask for a mode. -/
def modeTags : List String :=
  ["select", "td", "th", "tr", "tbody", "tfoot", "thead", "caption", "colgroup", "table", "head",
    "body", "frameset", "html"]

/-- The mode for elements that are open behind the head. -/
def modeOf : List Label → Mode
  | [] => .inBody
  | l :: outer =>
    if Label.isAny ["select"] l then selectModeOf outer
    else if Label.isAny Builder.cellTags l && !outer.isEmpty then .inCell
    else if Label.isAny ["tr"] l then .inRow
    else if Label.isAny Builder.rowGroupTags l then .inTableBody
    else if Label.isAny ["caption"] l then .inCaption
    else if Label.isAny ["colgroup"] l then .inColumnGroup
    else if Label.isAny ["table"] l then .inTable
    else if Label.isAny ["head"] l && !outer.isEmpty then .inHead
    else if Label.isAny ["body"] l then .inBody
    else if Label.isAny ["frameset"] l then .inFrameset
    else if Label.isAny ["html"] l then .afterHead
    else modeOf outer

/-- Most elements leave the mode as it is. -/
theorem modeOf_cons {l : Label} (h : Label.isAny modeTags l = false) (outer : List Label) :
    modeOf (l :: outer) = modeOf outer := by
  have hnone : ∀ tags : List String, tags ⊆ modeTags → Label.isAny tags l = false :=
    fun tags hsub => Label.isAny_eq_false_of_subset hsub h
  simp [modeOf, hnone ["select"] (by decide), hnone Builder.cellTags (by decide),
    hnone ["tr"] (by decide), hnone Builder.rowGroupTags (by decide),
    hnone ["caption"] (by decide), hnone ["colgroup"] (by decide), hnone ["table"] (by decide),
    hnone ["head"] (by decide), hnone ["body"] (by decide), hnone ["frameset"] (by decide),
    hnone ["html"] (by decide)]

/-! ## Rules -/

/-- By what rules the content of an element is placed. -/
inductive Rules where
  /-- Running text, in the body, a cell or a caption. -/
  | text
  | head
  /-- The parts of a table. -/
  | parts
  /-- The columns of a group. -/
  | columns
  /-- The options of a selection. -/
  | options
  /-- A drawing or a formula. -/
  | drawing
  | other
  deriving DecidableEq

/-- Whether the innermost open element is one of a drawing or a formula that holds no parts of the
page. -/
def inDrawing (outer : List Label) : Bool :=
  match outer with
  | (.html, _) :: _ | [] => false
  | l :: _ => !Label.isMathText l && !Label.isSvgHolder l

/-- The rules that hold in a mode. -/
def rulesOf : Mode → Rules
  | .inBody | .inCell | .inCaption => .text
  | .inHead => .head
  | .inTable | .inTableBody | .inRow => .parts
  | .inColumnGroup => .columns
  | .inSelect | .inSelectInTable => .options
  | _ => .other

/-- The modes in which some rules hold. -/
def modesWith : Rules → List Mode
  | .text => [.inBody, .inCell, .inCaption]
  | .head => [.inHead]
  | .parts => [.inTable, .inTableBody, .inRow]
  | .columns => [.inColumnGroup]
  | .options => [.inSelect, .inSelectInTable]
  | .drawing | .other => []

theorem mem_modesWith {mode : Mode} (h : rulesOf mode ≠ .other) :
    mode ∈ modesWith (rulesOf mode) := by
  cases mode <;> simp_all [rulesOf, modesWith]

/-- The rules inside some open elements.  The parts of a table stand nowhere else. -/
def rulesIn (outer : List Label) : Rules :=
  if inDrawing outer then .drawing
  else if rulesOf (modeOf outer) = .parts && !isInnermost tablePartTags outer then .other
  else rulesOf (modeOf outer)

/-- What the rules of the page say about the mode. -/
theorem of_rulesIn {outer : List Label} {rules : Rules} (h : rulesIn outer = rules)
    (hdrawing : rules ≠ .drawing) (hother : rules ≠ .other) :
    inDrawing outer = false ∧ modeOf outer ∈ modesWith rules ∧
      (rules = .parts → isInnermost tablePartTags outer = true) := by
  unfold rulesIn at h
  split at h
  · exact absurd h.symm hdrawing
  split at h
  · exact absurd h.symm hother
  · rename_i hpage hinnermost
    subst h
    refine ⟨by simpa using hpage, mem_modesWith hother, fun hparts => ?_⟩
    simpa [hparts] using hinnermost

theorem inDrawing_of_rulesIn {outer : List Label} (h : rulesIn outer = .drawing) :
    inDrawing outer = true := by
  unfold rulesIn at h
  split at h
  · assumption
  split at h
  · simp at h
  · cases hmode : modeOf outer <;> simp [hmode, rulesOf] at h

/-! ## What is read as it is written -/

/-- The elements that have rules of their own in running text. -/
def ruledTags : List String :=
  ["html", "body", "frameset", "p", "pre", "listing", "form", "li", "dd", "dt", "plaintext",
    "button", "table", "hr", "xmp", "a", "nobr", "input", "image", "textarea", "iframe",
    "noembed", "noscript", "select", "optgroup", "option", "rb", "rtc", "rp", "rt", "math",
    "svg"] ++ Builder.headTags ++ Builder.blockTags ++ Builder.headingTags ++
    Builder.formattingTags ++ Builder.holderTags ++ Builder.inlineVoidTags ++
    Builder.describingVoidTags ++ Builder.misplacedTags

/-- The blocks, and what is opened and closed as they are. -/
def paragraphEnds : List String := "p" :: "pre" :: "listing" :: Builder.blockTags

/-- Whether a formatting element is opened where its tag stands: a link ends another one, and of
elements of one kind only three are remembered. -/
def startsFormatting (outer : List Label) (tag : String) : Bool :=
  !(tag == "a" && (recent outer).any (Label.isAny ["a"])) &&
    !(tag == "nobr" && isInScope [] "nobr" outer) &&
    decide ((recent outer).countP (Label.isAny [tag]) < 3)

/-- Whether a part of a gloss ends elements that may end without a closing tag, except for a tag. -/
def endsInRuby (except : String) (outer : List Label) : Bool :=
  isInScope [] "ruby" outer && isInnermost (Builder.impliedEndTags.filter (· != except)) outer

/-- The elements of formulas that no text of the page begins with. -/
def glyphTags : List String := ["mglyph", "malignmark"]

/-- Whether an element is opened where its tag stands in running text: it ends no other one, and
its content is markup. -/
def opensInText (outer : List Label) (tag : String) : Bool :=
  (paragraphEnds.contains tag && !paragraphOpen outer) ||
  (Builder.headingTags.contains tag && !paragraphOpen outer &&
    !isInnermost Builder.headingTags outer) ||
  (tag == "li" && !paragraphOpen outer && !endsItem ["li"] outer) ||
  (["dd", "dt"].contains tag && !paragraphOpen outer && !endsItem ["dd", "dt"] outer) ||
  (tag == "form" && !paragraphOpen outer && !outer.any (Label.isAny ["form"])) ||
  (tag == "table" && !paragraphOpen outer) ||
  (tag == "button" && !isInScope [] "button" outer) ||
  (formattingNames.contains tag && startsFormatting outer tag) ||
  Builder.holderTags.contains tag ||
  (tag == "select" && modeOf ((.html, tag) :: outer) ==
    (if modeOf outer = .inBody then .inSelect else .inSelectInTable)) ||
  (["optgroup", "option"].contains tag && !isInnermost ["option"] outer) ||
  (["rb", "rtc"].contains tag && !endsInRuby "" outer) ||
  (["rp", "rt"].contains tag && !endsInRuby "rtc" outer) ||
  ["math", "svg"].contains tag ||
  (isSmallName tag.toList && !ruledTags.contains tag && !glyphTags.contains tag)

/-- Why an element is opened where its tag stands in running text, by the family it belongs to. -/
inductive OpensInText (outer : List Label) (tag : String) : Prop where
  | block (htag : tag ∈ paragraphEnds) (hp : paragraphOpen outer = false)
  | heading (htag : tag ∈ Builder.headingTags) (hp : paragraphOpen outer = false)
      (hparent : isInnermost Builder.headingTags outer = false)
  | listItem (htag : tag = "li") (hp : paragraphOpen outer = false)
      (hends : endsItem ["li"] outer = false)
  | term (htag : tag ∈ ["dd", "dt"]) (hp : paragraphOpen outer = false)
      (hends : endsItem ["dd", "dt"] outer = false)
  | form (htag : tag = "form") (hp : paragraphOpen outer = false)
      (hno : ∀ l ∈ outer, Label.isAny ["form"] l = false)
  | table (htag : tag = "table") (hp : paragraphOpen outer = false)
  | button (htag : tag = "button") (hscope : isInScope [] "button" outer = false)
  | formatting (htag : tag ∈ formattingNames) (hstarts : startsFormatting outer tag = true)
  | holder (htag : tag ∈ Builder.holderTags)
  | select (htag : tag = "select") (hmode : modeOf ((.html, tag) :: outer) =
      if modeOf outer = .inBody then .inSelect else .inSelectInTable)
  | option (htag : tag ∈ ["optgroup", "option"]) (hparent : isInnermost ["option"] outer = false)
  | ruby (except : String)
      (htag : tag ∈ ["rb", "rtc"] ∧ except = "" ∨ tag ∈ ["rp", "rt"] ∧ except = "rtc")
      (hends : endsInRuby except outer = false)
  | root (htag : tag ∈ ["math", "svg"])
  | plain (hsmall : isSmallName tag.toList = true) (htag : tag ∉ ruledTags)
      (hglyph : tag ∉ glyphTags)

theorem opensInText_of {outer : List Label} {tag : String} (h : opensInText outer tag = true) :
    OpensInText outer tag := by
  simp only [opensInText, Bool.or_eq_true, Bool.and_eq_true, Bool.not_eq_true', beq_iff_eq,
    List.contains_eq_mem, decide_eq_true_eq, decide_eq_false_iff_not, or_assoc, and_assoc,
    List.any_eq_false, Bool.not_eq_true] at h
  rcases h with h | h | h | h | h | h | h | h | h | h | h | h | h | h | h
  · exact .block h.1 h.2
  · exact .heading h.1 h.2.1 h.2.2
  · exact .listItem h.1 h.2.1 h.2.2
  · exact .term h.1 h.2.1 h.2.2
  · exact .form h.1 h.2.1 h.2.2
  · exact .table h.1 h.2
  · exact .button h.1 h.2
  · exact .formatting h.1 h.2
  · exact .holder h
  · exact .select h.1 h.2
  · exact .option h.1 h.2
  · exact .ruby "" (.inl ⟨h.1, rfl⟩) h.2
  · exact .ruby "rtc" (.inr ⟨h.1, rfl⟩) h.2
  · exact .root h
  · exact .plain h.1 h.2.1 h.2.2

/-- The parts of a gloss. -/
theorem mem_of_ruby {tag except : String}
    (h : tag ∈ ["rb", "rtc"] ∧ except = "" ∨ tag ∈ ["rp", "rt"] ∧ except = "rtc") :
    tag ∈ ["rb", "rtc", "rp", "rt"] := by
  simp only [List.mem_cons, List.not_mem_nil, or_false] at h ⊢
  rcases h with ⟨hname | hname, -⟩ | ⟨hname | hname, -⟩ <;> simp [hname]

/-- Whether a part of a table is opened inside the part that it belongs to. -/
def opensInTable (outer : List Label) (tag : String) : Bool :=
  (isInnermost ["table"] outer && ("caption" :: "colgroup" :: Builder.rowGroupTags).contains tag) ||
  (isInnermost Builder.rowGroupTags outer && tag == "tr") ||
  (isInnermost ["tr"] outer && Builder.cellTags.contains tag)

theorem mem_of_opensInTable {outer : List Label} {tag : String}
    (h : opensInTable outer tag = true) :
    tag ∈ ["caption", "colgroup", "tr"] ++ Builder.rowGroupTags ++ Builder.cellTags := by
  simp only [opensInTable, Bool.or_eq_true, Bool.and_eq_true, beq_iff_eq, List.contains_eq_mem,
    decide_eq_true_eq, List.mem_cons] at h
  simp only [List.mem_append, List.mem_cons, List.not_mem_nil, or_false]
  rcases h with (⟨-, h | h | h⟩ | ⟨-, h⟩) | ⟨-, h⟩ <;> simp [h]

/-- Whether an option or a group of options ends no other one. -/
def opensInSelect (outer : List Label) (tag : String) : Bool :=
  (tag == "option" && !isInnermost ["option"] outer) ||
  (tag == "optgroup" && !isInnermost ["option", "optgroup"] outer)

theorem mem_of_opensInSelect {outer : List Label} {tag : String}
    (h : opensInSelect outer tag = true) : tag ∈ ["option", "optgroup"] := by
  simp only [opensInSelect, Bool.or_eq_true, Bool.and_eq_true, beq_iff_eq] at h
  rcases h with ⟨rfl, -⟩ | ⟨rfl, -⟩ <;> decide

/-- Whether a tag neither leaves a drawing nor belongs to the page. -/
def staysInDrawing (tag : String) (as : List Attribute) : Bool :=
  !Builder.pageTags.contains (readName tag) && !(readName tag == "font" &&
    (readValues as).any fun (name, _) => ["color", "face", "size"].contains name)

/-- Whether an element of a drawing or a formula has the name that is read of its tag. -/
def opensInDrawing (outer : List Label) (tag : String) (as : List Attribute) : Bool :=
  isTagName tag.toList && staysInDrawing tag as && match outer with
  | (.svg, _) :: _ => Builder.respell Builder.svgTags (readName tag) == tag
  | (.math, parent) :: _ => readName tag == tag && !(parent == "annotation-xml" && tag == "svg")
  | _ => false

/-- **Whether an element is opened where its tag stands**, and its content is markup. -/
def opensIn (outer : List Label) (tag : String) (as : List Attribute) : Bool :=
  match rulesIn outer with
  | .text => opensInText outer tag
  | .parts => opensInTable outer tag
  | .options => opensInSelect outer tag
  | .drawing => opensInDrawing outer tag as
  | .head | .columns | .other => false

/-- The vocabulary of an element that is opened in running text. -/
def vocabularyOf (tag : String) : Space :=
  if tag = "svg" then .svg else if tag = "math" then .math else .html

theorem vocabularyOf_eq_html {tag : String} (h : tag ∉ ["math", "svg"]) :
    vocabularyOf tag = .html := by
  simp only [List.mem_cons, List.not_mem_nil, or_false, not_or] at h
  simp [vocabularyOf, h]

/-- The vocabulary of an element that is opened. -/
def spaceIn (outer : List Label) (tag : String) : Space :=
  if inDrawing outer then (outer.head?.map (·.1)).getD .html else vocabularyOf tag

/-- The elements without content that stand in running text wherever their tags do. -/
def voidTextTags : List String :=
  ["area", "br", "embed", "img", "wbr", "input", "param", "source", "track", "base", "link", "meta"]

/-- Whether an element without content is put where its tag stands in running text. -/
def standsInText (outer : List Label) (tag : String) : Bool :=
  voidTextTags.contains tag || (tag == "hr" && !paragraphOpen outer)

theorem mem_of_standsInText {outer : List Label} {tag : String}
    (h : standsInText outer tag = true) : tag ∈ "hr" :: voidTextTags := by
  simp only [standsInText, Bool.or_eq_true, Bool.and_eq_true, List.contains_eq_mem,
    decide_eq_true_eq, beq_iff_eq] at h
  rcases h with h | h
  · exact List.mem_cons_of_mem _ h
  · simp [h.1]

/-- **Whether an element without content is put where its tag stands.** -/
def standsIn (outer : List Label) (tag : String) (as : List Attribute) : Bool :=
  match rulesIn outer with
  | .text => standsInText outer tag
  | .head => ["base", "link", "meta"].contains tag
  | .parts => tag == "input" && Builder.isHidden (readTag tag as)
  | .columns => tag == "col"
  | .options => tag == "hr" && !isInnermost ["option", "optgroup"] outer
  | .drawing | .other => false

/-- **Whether an element is opened where its tag stands**, and its content is not markup. -/
def unmarkedIn (outer : List Label) (tag : String) : Bool :=
  match rulesIn outer with
  | .text =>
    ["title", "style", "script", "noframes", "textarea", "iframe", "noembed", "noscript"].contains
      tag || (tag == "xmp" && !paragraphOpen outer)
  | .head => ["title", "style", "script", "noframes", "noscript"].contains tag
  | .parts => ["style", "script"].contains tag
  | .options => tag == "script"
  | .columns | .drawing | .other => false

/-- Whether a template is kept apart where its tag stands. -/
def takesTemplate (outer : List Label) : Bool :=
  [.text, .head, .parts, .columns, .options].contains (rulesIn outer)

/-- Whether text stays where it stands. -/
def takesText (outer : List Label) : Bool := [.text, .options, .drawing].contains (rulesIn outer)

end Expectation.Html
