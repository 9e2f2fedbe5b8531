import Expectation.Proofs.Html.Building

/-!
# Opening tags in running text

In running text an opening tag may do more than open its element.  Where it does none of this is
told by the open elements, and there its element becomes the innermost open one.  The rules for a
tag are stated once, and what each of them does in an orderly state follows from them.

## Main results

* `Ready.bodyTag`: the opening tag of an element of the page.
* `Ready.bodyTag_root`, `Ready.insertForeign`: drawings, formulas and the elements in them.
-/

namespace Expectation.Html

namespace Builder

/-! ## Which rule a tag falls under -/

theorem bodyTag_block (b : Builder) {tag : Tag} (h : tag.name ∈ "p" :: blockTags) :
    b.bodyTag tag = b.closeParagraph.insert tag := by
  have hothers : ∀ name ∈ "p" :: blockTags, name ≠ "html" ∧ name ∉ headTags ∧ name ≠ "body" ∧
      name ≠ "frameset" := by decide
  obtain ⟨h1, h2, h3, h4⟩ := hothers _ h
  have hblock : tag.name = "p" ∨ tag.name ∈ blockTags := List.mem_cons.mp h
  simp [bodyTag, h1, h2, h3, h4, hblock]

theorem bodyTag_heading (b : Builder) {tag : Tag} (h : tag.name ∈ headingTags) :
    b.bodyTag tag = (if b.closeParagraph.current headingTags then b.closeParagraph.pop
      else b.closeParagraph).insert tag := by
  have hothers : ∀ name ∈ headingTags, name ≠ "html" ∧ name ∉ headTags ∧ name ≠ "body" ∧
      name ≠ "frameset" ∧ name ≠ "p" ∧ name ∉ blockTags := by decide
  obtain ⟨h1, h2, h3, h4, h5, h6⟩ := hothers _ h
  simp [bodyTag, h1, h2, h3, h4, h5, h6, h]

theorem bodyTag_preformatted (b : Builder) {tag : Tag} (h : tag.name ∈ ["pre", "listing"]) :
    b.bodyTag tag = { (b.closeParagraph.insert tag).keepBody with skipNewline := true } := by
  have hothers : ∀ name ∈ ["pre", "listing"], name ≠ "html" ∧ name ∉ headTags ∧ name ≠ "body" ∧
      name ≠ "frameset" ∧ name ≠ "p" ∧ name ∉ blockTags ∧ name ∉ headingTags := by decide
  obtain ⟨h1, h2, h3, h4, h5, h6, h7⟩ := hothers _ h
  have hname : tag.name = "pre" ∨ tag.name = "listing" := by simpa using h
  simp [bodyTag, h1, h2, h3, h4, h5, h6, h7, hname]

theorem bodyTag_item (b : Builder) {tag : Tag} (h : tag.name ∈ ["li", "dd", "dt"]) :
    b.bodyTag tag = b.openItem tag := by
  have hothers : ∀ name ∈ ["li", "dd", "dt"], name ≠ "html" ∧ name ∉ headTags ∧ name ≠ "body" ∧
      name ≠ "frameset" ∧ name ≠ "p" ∧ name ∉ blockTags ∧ name ∉ headingTags ∧ name ≠ "pre" ∧
      name ≠ "listing" ∧ name ≠ "form" := by decide
  obtain ⟨h1, h2, h3, h4, h5, h6, h7, h8, h9, h10⟩ := hothers _ h
  have hitem : tag.name = "li" ∨ tag.name = "dd" ∨ tag.name = "dt" := by simpa using h
  simp [bodyTag, h1, h2, h3, h4, h5, h6, h7, h8, h9, h10, hitem]

theorem bodyTag_form (b : Builder) {tag : Tag} (h : tag.name = "form") :
    b.bodyTag tag = b.openForm tag := by
  have h1 : "form" ∉ headTags := by decide
  have h2 : "form" ∉ blockTags := by decide
  have h3 : "form" ∉ headingTags := by decide
  simp [bodyTag, h, h1, h2, h3]

theorem bodyTag_button (b : Builder) {tag : Tag} (h : tag.name = "button") :
    b.bodyTag tag = b.openButton tag := by
  have h1 : "button" ∉ headTags := by decide
  have h2 : "button" ∉ blockTags := by decide
  have h3 : "button" ∉ headingTags := by decide
  simp [bodyTag, h, h1, h2, h3]

theorem bodyTag_table (b : Builder) {tag : Tag} (h : tag.name = "table") :
    b.bodyTag tag =
      (((if b.oldRules then b else b.closeParagraph).insert tag).keepBody).withMode .inTable := by
  have h1 : "table" ∉ headTags := by decide
  have h2 : "table" ∉ blockTags := by decide
  have h3 : "table" ∉ headingTags := by decide
  simp [bodyTag, h, h1, h2, h3]

/-- The tags that have rules of their own as blocks and the like. -/
def outlineTags : List String :=
  ["html", "body", "frameset", "p", "pre", "listing", "form", "li", "dd", "dt", "plaintext",
    "button", "table", "hr", "xmp"] ++ headTags ++ blockTags ++ headingTags

theorem bodyTag_inline (b : Builder) {tag : Tag} (h : tag.name ∉ outlineTags) :
    b.bodyTag tag = b.bodyInlineTag tag := by
  simp only [outlineTags, List.mem_append, not_or, List.mem_cons, List.not_mem_nil] at h
  simp [bodyTag, h]

theorem bodyTag_formatting (b : Builder) {tag : Tag} (h : tag.name ∈ "a" :: formattingTags) :
    b.bodyTag tag =
      (if tag.name = "a" then b.closeLink else b).reopenFormatting.insertFormatting tag := by
  have hothers : ∀ name ∈ "a" :: formattingTags, name ∉ outlineTags := by decide
  rw [bodyTag_inline b (hothers _ h)]
  by_cases ha : tag.name = "a"
  · simp [bodyInlineTag, ha]
  · have hmem : tag.name ∈ formattingTags := (List.mem_cons.mp h).resolve_left ha
    simp [bodyInlineTag, ha, hmem]

theorem bodyTag_nobr (b : Builder) {tag : Tag} (h : tag.name = "nobr") :
    b.bodyTag tag = (if b.reopenFormatting.inScope ["nobr"] then
      (b.reopenFormatting.closeFormatting "nobr").reopenFormatting
        else b.reopenFormatting).insertFormatting tag := by
  rw [bodyTag_inline b (by rw [h]; decide)]
  have h1 : "nobr" ∉ formattingTags := by decide
  simp [bodyInlineTag, h, h1]

theorem bodyTag_holder (b : Builder) {tag : Tag} (h : tag.name ∈ holderTags) :
    b.bodyTag tag = { (b.reopenFormatting.insert tag).keepBody with
      formatting := .marker :: (b.reopenFormatting.insert tag).formatting } := by
  have hothers : ∀ name ∈ holderTags, name ∉ outlineTags ∧ name ≠ "a" ∧ name ∉ formattingTags ∧
      name ≠ "nobr" := by decide
  obtain ⟨h1, h2, h3, h4⟩ := hothers _ h
  rw [bodyTag_inline b h1]
  simp [bodyInlineTag, h, h2, h3, h4, keepBody]

/-- The tags that have rules of their own as formatting, holders of content and void elements. -/
def inlineTags : List String :=
  ["a", "nobr", "input", "image", "textarea", "iframe", "noembed", "noscript"] ++ formattingTags ++
    holderTags ++ inlineVoidTags ++ describingVoidTags

theorem bodyTag_select (b : Builder) {tag : Tag} (h : tag.name = "select") :
    b.bodyTag tag = b.openSelect tag := by
  have hothers : "select" ∉ inlineTags := by decide
  rw [bodyTag_inline b (by rw [h]; decide)]
  simp only [inlineTags, List.mem_append, not_or, List.mem_cons, List.not_mem_nil] at hothers
  simp [bodyInlineTag, h, hothers]

theorem bodyTag_option (b : Builder) {tag : Tag} (h : tag.name ∈ ["optgroup", "option"]) :
    b.bodyTag tag =
      (if b.current ["option"] then b.pop else b).reopenFormatting.insert tag := by
  have hothers : ∀ name ∈ ["optgroup", "option"], name ∉ outlineTags ∧ name ∉ inlineTags ∧
      name ≠ "select" := by decide
  obtain ⟨h1, h2, h3⟩ := hothers _ h
  rw [bodyTag_inline b h1]
  simp only [inlineTags, List.mem_append, not_or, List.mem_cons, List.not_mem_nil] at h2
  have hname : tag.name = "optgroup" ∨ tag.name = "option" := by simpa using h
  simp [bodyInlineTag, h2, h3, hname]

theorem bodyTag_ruby (b : Builder) {tag : Tag} {except : String}
    (h : tag.name ∈ ["rb", "rtc"] ∧ except = "" ∨ tag.name ∈ ["rp", "rt"] ∧ except = "rtc") :
    b.bodyTag tag =
      (if b.inScope ["ruby"] then b.closeImplied except else b).insert tag := by
  have hothers : ∀ name ∈ ["rb", "rtc", "rp", "rt"], name ∉ outlineTags ∧ name ∉ inlineTags ∧
      name ≠ "select" ∧ name ≠ "optgroup" ∧ name ≠ "option" := by decide
  obtain ⟨h1, h2, h3, h4, h5⟩ := hothers _ (mem_of_ruby h)
  rw [bodyTag_inline b h1]
  simp only [inlineTags, List.mem_append, not_or, List.mem_cons, List.not_mem_nil] at h2
  rcases h with ⟨hname, rfl⟩ | ⟨hname, rfl⟩
  · have hname : tag.name = "rb" ∨ tag.name = "rtc" := by simpa using hname
    simp [bodyInlineTag, h2, h3, h4, h5, hname]
  · have hno : tag.name ≠ "rb" ∧ tag.name ≠ "rtc" := by
      constructor <;> intro heq <;> rw [heq] at hname <;> simp at hname
    have hname : tag.name = "rp" ∨ tag.name = "rt" := by simpa using hname
    simp [bodyInlineTag, h2, h3, h4, h5, hno, hname]

theorem bodyTag_root (b : Builder) {tag : Tag} (h : tag.name ∈ ["math", "svg"]) :
    b.bodyTag tag = b.insertForeign (vocabularyOf tag.name) tag := by
  have hothers : ∀ name ∈ ["math", "svg"], name ∉ outlineTags ∧ name ∉ inlineTags ∧
      name ∉ ["select", "optgroup", "option", "rb", "rtc", "rp", "rt"] := by decide
  obtain ⟨h1, h2, h3⟩ := hothers _ h
  rw [bodyTag_inline b h1]
  simp only [inlineTags, List.mem_append, not_or, List.mem_cons, List.not_mem_nil] at h2 h3
  have hname : tag.name = "math" ∨ tag.name = "svg" := by simpa using h
  rcases hname with hname | hname <;> simp [bodyInlineTag, vocabularyOf, hname] at h2 h3 ⊢ <;>
    simp [h2]

theorem bodyTag_plain (b : Builder) {tag : Tag} (h : tag.name ∉ ruledTags) :
    b.bodyTag tag = b.reopenFormatting.insert tag := by
  simp only [ruledTags, List.mem_append, not_or, List.mem_cons, List.not_mem_nil] at h
  rw [bodyTag_inline b (by simp [outlineTags, h])]
  simp [bodyInlineTag, h]

theorem bodyTag_head (b : Builder) {tag : Tag} (h : tag.name ∈ headTags) :
    b.bodyTag tag = (b.headTag? tag).getD b := by
  have hhtml : tag.name ≠ "html" := by
    intro hname
    rw [hname] at h
    exact absurd h (by decide)
  simp [bodyTag, hhtml, h]

theorem bodyTag_rule (b : Builder) {tag : Tag} (h : tag.name = "hr") :
    b.bodyTag tag = (b.closeParagraph.insertVoid tag).keepBody := by
  have h1 : "hr" ∉ headTags := by decide
  have h2 : "hr" ∉ blockTags := by decide
  have h3 : "hr" ∉ headingTags := by decide
  simp [bodyTag, h, h1, h2, h3]

theorem bodyTag_inlineVoid (b : Builder) {tag : Tag} (h : tag.name ∈ inlineVoidTags) :
    b.bodyTag tag = b.insertInlineVoid tag := by
  have hothers : ∀ name ∈ inlineVoidTags, name ∉ outlineTags ∧ name ≠ "a" ∧ name ∉ formattingTags ∧
      name ≠ "nobr" ∧ name ∉ holderTags := by decide
  obtain ⟨h1, h2, h3, h4, h5⟩ := hothers _ h
  rw [bodyTag_inline b h1]
  simp [bodyInlineTag, h, h2, h3, h4, h5]

theorem bodyTag_input (b : Builder) {tag : Tag} (h : tag.name = "input") :
    b.bodyTag tag = if isHidden tag then b.reopenFormatting.insertVoid tag
      else (b.reopenFormatting.insertVoid tag).keepBody := by
  have hothers : "input" ∉ formattingTags ++ holderTags ++ inlineVoidTags := by decide
  simp only [List.mem_append, not_or] at hothers
  rw [bodyTag_inline b (by rw [h]; decide)]
  simp [bodyInlineTag, h, hothers]

theorem bodyTag_describingVoid (b : Builder) {tag : Tag} (h : tag.name ∈ describingVoidTags) :
    b.bodyTag tag = b.insertVoid tag := by
  have hothers : ∀ name ∈ describingVoidTags, name ∉ outlineTags ∧
      name ∉ ["a", "nobr", "input"] ++ formattingTags ++ holderTags ++ inlineVoidTags := by decide
  obtain ⟨h1, h2⟩ := hothers _ h
  rw [bodyTag_inline b h1]
  simp only [List.mem_append, not_or, List.mem_cons, List.not_mem_nil] at h2
  simp [bodyInlineTag, h, h2]

theorem bodyTag_xmp (b : Builder) {tag : Tag} (h : tag.name = "xmp") :
    b.bodyTag tag =
      b.closeParagraph.reopenFormatting.keepBody.insertText tag (.raw tag.name) := by
  have h1 : "xmp" ∉ headTags := by decide
  have h2 : "xmp" ∉ blockTags := by decide
  have h3 : "xmp" ∉ headingTags := by decide
  simp [bodyTag, h, h1, h2, h3]

theorem bodyTag_textarea (b : Builder) {tag : Tag} (h : tag.name = "textarea") :
    b.bodyTag tag = { b.insertText tag (.references tag.name) with
      skipNewline := true, framesetOk := false } := by
  have hothers :
      "textarea" ∉ formattingTags ++ holderTags ++ inlineVoidTags ++ describingVoidTags := by
    decide
  simp only [List.mem_append, not_or] at hothers
  rw [bodyTag_inline b (by rw [h]; decide)]
  simp [bodyInlineTag, h, hothers]

theorem bodyTag_iframe (b : Builder) {tag : Tag} (h : tag.name = "iframe") :
    b.bodyTag tag = b.keepBody.insertText tag (.raw tag.name) := by
  have hothers :
      "iframe" ∉ formattingTags ++ holderTags ++ inlineVoidTags ++ describingVoidTags := by
    decide
  simp only [List.mem_append, not_or] at hothers
  rw [bodyTag_inline b (by rw [h]; decide)]
  simp [bodyInlineTag, h, hothers]

theorem bodyTag_raw (b : Builder) {tag : Tag} (h : tag.name ∈ ["noembed", "noscript"]) :
    b.bodyTag tag = b.insertText tag (.raw tag.name) := by
  have hothers : ∀ name ∈ ["noembed", "noscript"], name ∉ outlineTags ∧
      name ∉ ["a", "nobr", "input", "image", "textarea", "iframe"] ++ formattingTags ++
        holderTags ++ inlineVoidTags ++ describingVoidTags := by decide
  obtain ⟨h1, h2⟩ := hothers _ h
  have hname : tag.name = "noembed" ∨ tag.name = "noscript" := by simpa using h
  rw [bodyTag_inline b h1]
  simp only [List.mem_append, not_or, List.mem_cons, List.not_mem_nil] at h2
  simp [bodyInlineTag, hname, h2]

theorem bodyClosing_inScope (b : Builder) {name : String} (h : name ∈ blockEndTags) :
    b.bodyClosing name = b.closeInScope name := by
  have htemplate : name ≠ "template" := by
    rintro rfl
    exact absurd h (by decide)
  simp [bodyClosing, htemplate, h]

theorem bodyClosing_form (b : Builder) : b.bodyClosing "form" = b.closeForm := by
  have hends : "form" ∉ blockEndTags := by decide
  simp [bodyClosing, hends]

theorem bodyClosing_paragraph (b : Builder) : b.bodyClosing "p" = b.closeOrInsertParagraph := by
  have hends : "p" ∉ blockEndTags := by decide
  simp [bodyClosing, hends]

theorem bodyClosing_listItem (b : Builder) :
    b.bodyClosing "li" = if b.inListScope ["li"] then b.closeElement "li" else b := by
  have hends : "li" ∉ blockEndTags := by decide
  simp [bodyClosing, hends]

theorem bodyClosing_term (b : Builder) {name : String} (h : name ∈ ["dd", "dt"]) :
    b.bodyClosing name = if b.inScope [name] then b.closeElement name else b := by
  have hothers : ∀ name ∈ ["dd", "dt"], name ≠ "template" ∧ name ∉ blockEndTags ∧
      name ≠ "form" ∧ name ≠ "p" ∧ name ≠ "li" ∧ (name = "dd" ∨ name = "dt") := by decide
  obtain ⟨h1, h2, h3, h4, h5, h6⟩ := hothers _ h
  simp [bodyClosing, h1, h2, h3, h4, h5, h6]

theorem bodyClosing_heading (b : Builder) {name : String} (h : name ∈ headingTags) :
    b.bodyClosing name = b.closeHeading := by
  have hothers : ∀ name ∈ headingTags, name ≠ "template" ∧ name ∉ blockEndTags ∧
      name ≠ "form" ∧ name ≠ "p" ∧ name ≠ "li" ∧ name ≠ "dd" ∧ name ≠ "dt" := by decide
  obtain ⟨h1, h2, h3, h4, h5, h6, h7⟩ := hothers _ h
  simp [bodyClosing, h1, h2, h3, h4, h5, h6, h7, h]

/-- The closing tags with rules of their own, other than those of formatting elements. -/
def blockClosings : List String :=
  ["template", "form", "p", "li", "dd", "dt"] ++ blockEndTags ++ headingTags

theorem bodyClosing_formatting (b : Builder) {name : String} (h : name ∈ formattingNames) :
    b.bodyClosing name = b.closeFormatting name := by
  have hothers : ∀ name ∈ formattingNames, name ∉ blockClosings := by decide
  have hblock := hothers _ h
  have hname : name = "a" ∨ name = "nobr" ∨ name ∈ formattingTags := by
    simpa [formattingNames] using h
  simp only [blockClosings, List.mem_append, not_or, List.mem_cons, List.not_mem_nil] at hblock
  simp only [bodyClosing, hblock, List.contains_eq_mem, decide_eq_true_eq, if_false,
    Bool.or_eq_true, or_assoc, hname, if_true, or_self]

theorem bodyClosing_holder (b : Builder) {name : String} (h : name ∈ holderTags) :
    b.bodyClosing name = if b.inScope [name] then (b.closeInScope name).clearFormatting else b := by
  have hothers : ∀ name ∈ holderTags, name ∉ blockClosings ∧ name ≠ "a" ∧ name ≠ "nobr" ∧
      name ∉ formattingTags := by decide
  obtain ⟨hblock, h1, h2, h3⟩ := hothers _ h
  simp only [blockClosings, List.mem_append, not_or, List.mem_cons, List.not_mem_nil] at hblock
  simp [bodyClosing, hblock, h1, h2, h3, h]

/-- The closing tags with rules of their own. -/
def ruledClosings : List String := blockClosings ++ formattingNames ++ holderTags ++ ["br"]

theorem bodyClosing_any (b : Builder) {name : String} (h : name ∉ ruledClosings) :
    b.bodyClosing name = b.closeAny name := by
  simp only [ruledClosings, blockClosings, formattingNames, List.mem_append, not_or,
    List.mem_cons, List.not_mem_nil] at h
  simp [bodyClosing, h]

/-! ## Rules for tags in running text -/

/-- The opening tags that cells and captions do not leave to the rules of the body. -/
def partTags : List String := outerPartTags ++ cellTags ++ ["tr"]

/-- The closing tags that they do not. -/
def partClosings : List String := idleClosings ++ ["table"] ++ rowGroupTags ++ cellTags

theorem modeStep_opening (b : Builder) (hmode : b.mode ∈ [.inBody, .inCell, .inCaption])
    {tag : Tag} (htag : tag.name ∉ partTags) :
    b.modeStep (.opening tag) = .done (b.bodyTag tag) := by
  simp only [partTags, List.mem_append, not_or, List.mem_singleton] at htag
  simp only [List.mem_cons, List.not_mem_nil, or_false] at hmode
  rcases hmode with hmode | hmode | hmode
  · simp [modeStep, hmode, bodyStep]
  · simp [modeStep, hmode, cellStep, bodyStep, htag]
  · simp [modeStep, hmode, captionStep, bodyStep, htag]

theorem modeStep_closing (b : Builder) (hmode : b.mode ∈ [.inBody, .inCell, .inCaption])
    {name : String} (hname : name ∉ partClosings) :
    b.modeStep (.closing name) = .done (b.bodyClosing name) := by
  have hbody : "body" ∈ partClosings ∧ "html" ∈ partClosings ∧ "caption" ∈ partClosings ∧
      "tr" ∈ partClosings := by decide
  have hne : name ≠ "body" ∧ name ≠ "html" ∧ name ≠ "caption" ∧ name ≠ "tr" := by
    refine ⟨?_, ?_, ?_, ?_⟩
    all_goals
      rintro rfl
      simp_all
  simp only [partClosings, List.mem_append, not_or, List.mem_singleton] at hname
  simp only [List.mem_cons, List.not_mem_nil, or_false] at hmode
  rcases hmode with hmode | hmode | hmode
  · simp [modeStep, hmode, bodyStep, hne]
  · simp [modeStep, hmode, cellStep, bodyStep, hname, hne]
  · simp [modeStep, hmode, captionStep, bodyStep, hname, hne]

theorem modeStep_char (b : Builder) (hmode : b.mode ∈ [.inBody, .inCell, .inCaption]) (c : Char) :
    b.modeStep (.char c) = .done (b.bodyChar c) := by
  simp only [List.mem_cons, List.not_mem_nil, or_false] at hmode
  rcases hmode with hmode | hmode | hmode <;> simp only [modeStep, hmode] <;> rfl

section Ready

variable {b : Builder} {mode : Mode} {ids : List Nat} {e : Open} {es : List Open} {page : Frame}
  {outer : List Label} {tag : String} {as : List Attribute}

/-! ## What is not in the way of a tag -/

theorem Shown.closeParagraph_eq (h : b.Shown ids es page)
    (hp : paragraphOpen (es.map Open.label) = false) : b.closeParagraph = b := by
  have hscope : b.inButtonScope ["p"] = false := (h.inScopeOf_eq ["button"] ["p"]).trans hp
  rw [closeParagraph, hscope, if_neg Bool.false_ne_true]

theorem endedItem?_eq {tags : List String} {ids : List Nat} {ls : List Label}
    (h : List.Forall₂ (fun i l => b.label? i = some l) ids ls)
    (hends : endsItem tags ls = false) : b.endedItem? tags ids = none := by
  induction h with
  | nil => rfl
  | @cons i l ids ls hlabel _ ih =>
      simp only [endsItem, Bool.or_eq_false_iff, Bool.and_eq_false_imp, Bool.not_eq_true'] at hends
      obtain ⟨hl, hrest⟩ := hends
      rw [endedItem?, isAny_of_label hlabel, isAny_of_label hlabel, isAny_of_label hlabel, hl,
        if_neg Bool.false_ne_true]
      split
      · rfl
      · rename_i hspecial
        exact ih (hrest (by simpa using hspecial))

theorem Shown.openItem_eq (h : b.Shown ids es page) {tag : Tag}
    (hp : paragraphOpen (es.map Open.label) = false)
    (hends : endsItem (if tag.name = "li" then ["li"] else ["dd", "dt"]) (es.map Open.label) =
      false) : b.openItem tag = (b.insert tag).keepBody := by
  have hlabels : List.Forall₂ (fun i l => b.label? i = some l) ids (es.map Open.label) :=
    List.forall₂_map_right_iff.mpr h.labels
  rw [openItem, h.opened_eq, endedItem?_eq hlabels hends]
  simp only [h.closeParagraph_eq hp]

theorem Shown.closeImplied_eq (h : b.Shown ids (e :: es) page) {except : String}
    (hends : Label.isAny (impliedEndTags.filter (· != except)) e.label = false) :
    b.closeImplied except = b := by
  obtain ⟨i, rest, rfl, hlabel⟩ := h.exists_top
  have hopened : b.opened.dropWhile (b.isAny (impliedEndTags.filter (· != except))) = b.opened := by
    rw [h.opened_eq, List.dropWhile_cons_of_neg (by simp [isAny_of_label hlabel, hends])]
  rw [closeImplied]
  simp only [hopened]

/-- The names of formatting elements are read as they are. -/
theorem name_of_mem_zip {x : Nat × Label × Tag} (hx : x ∈ ids.zip (es.map Open.opening))
    (hl : Label.isAny formattingNames x.2.1 = true) : x.2.1 = (.html, x.2.2.name) := by
  have hsmall : ∀ name ∈ formattingNames, isSmallName name.toList = true := by decide
  obtain ⟨i, l, tag⟩ := x
  obtain ⟨e, -, heq⟩ := List.mem_map.mp (List.of_mem_zip hx).2
  obtain ⟨rfl, rfl⟩ := Prod.mk.inj heq
  obtain ⟨space, tag, as, kids, behind⟩ := e
  cases space with
  | html =>
      have hmem : tag ∈ formattingNames := by simpa [Label.isAny, Open.label] using hl
      exact congrArg (Prod.mk Space.html) (readName_of_isSmallName (hsmall _ hmem)).symm
  | svg | math => simp [Label.isAny, Open.label] at hl

theorem latest?_eq_none {xs : List (Nat × Label × Tag)} {name : String}
    (hnames : ∀ x ∈ xs, Label.isAny formattingNames x.2.1 = true → x.2.1 = (.html, x.2.2.name))
    (h : (recent (xs.map (·.2.1))).any (Label.isAny [name]) = false) :
    latest? name (remembered xs) = none := by
  induction xs with
  | nil => rfl
  | cons x xs ih =>
      obtain ⟨i, l, tag⟩ := x
      obtain ⟨hname, hrest⟩ := List.forall_mem_cons.mp hnames
      rw [remembered]
      cases hmarker : Label.isAny markerTags l with
      | true => rfl
      | false =>
          simp only [recent, List.map_cons, hmarker, Bool.not_false, List.takeWhile_cons_of_pos,
            List.any_cons, Bool.or_eq_false_iff] at h
          cases hformatting : Label.isAny formattingNames l with
          | true =>
              obtain rfl : l = (.html, tag.name) := hname hformatting
              have hne : tag.name ≠ name := by simpa [Label.isAny] using h.1
              simpa [latest?, hne] using ih hrest h.2
          | false => simpa using ih hrest h.2

theorem length_openedBy_le {xs : List (Nat × Label × Tag)}
    (hnames : ∀ x ∈ xs, Label.isAny formattingNames x.2.1 = true → x.2.1 = (.html, x.2.2.name))
    (tag : Tag) :
    (((remembered xs).takeWhile (· != .marker)).filter (openedBy tag)).length ≤
      (recent (xs.map (·.2.1))).countP (Label.isAny [tag.name]) := by
  induction xs with
  | nil => exact Nat.le_refl _
  | cons x xs ih =>
      obtain ⟨i, l, other⟩ := x
      obtain ⟨hname, hothers⟩ := List.forall_mem_cons.mp hnames
      have hrest := ih hothers
      rw [remembered]
      cases hmarker : Label.isAny markerTags l with
      | true => simp
      | false =>
          simp only [recent, List.map_cons, hmarker, Bool.not_false, List.takeWhile_cons_of_pos,
            List.countP_cons]
          cases hformatting : Label.isAny formattingNames l with
          | true =>
              obtain rfl : l = (.html, other.name) := hname hformatting
              cases hopened : openedBy tag (.element i other) with
              | true =>
                  have heq : tag.name = other.name := by
                    simp only [openedBy, Bool.and_eq_true, beq_iff_eq] at hopened
                    exact hopened.1.1
                  have hcount : Label.isAny [tag.name] (.html, other.name) = true := by
                    simp [Label.isAny, heq]
                  simpa [hopened, hcount, recent] using hrest
              | false =>
                  simp only [if_true, Bool.false_eq_true, if_false]
                  rw [List.takeWhile_cons_of_pos (by simp),
                    List.filter_cons_of_neg (by simp [hopened])]
                  exact Nat.le_trans hrest (Nat.le_add_right _ _)
          | false =>
              simp only [Bool.false_eq_true, if_false]
              exact Nat.le_trans hrest (Nat.le_add_right _ _)

theorem Shown.map_label_zip (h : b.Shown ids es page) :
    (ids.zip (es.map Open.opening)).map (·.2.1) = es.map Open.label := by
  have hlength : (es.map Open.opening).length ≤ ids.length := by
    rw [List.length_map, h.labels.length_eq]
  calc (ids.zip (es.map Open.opening)).map (·.2.1)
      = ((ids.zip (es.map Open.opening)).map Prod.snd).map Prod.fst := by rw [List.map_map]; rfl
    _ = (es.map Open.opening).map Prod.fst := by rw [List.map_snd_zip hlength]
    _ = es.map Open.label := by rw [List.map_map]; rfl

/-- A formatting element takes the place of no other one. -/
theorem Ready.limitEntries_eq (h : b.Ready mode ids es page) (tag : Tag)
    (hcount : (recent (es.map Open.label)).countP (Label.isAny [tag.name]) < 3) :
    limitEntries tag b.formatting = b.formatting := by
  have hnames : ∀ x ∈ ids.zip (es.map Open.opening), Label.isAny formattingNames x.2.1 = true →
      x.2.1 = (.html, x.2.2.name) := fun _ hx => name_of_mem_zip hx
  have hle := length_openedBy_le hnames tag
  rw [h.map_label_zip] at hle
  have hfew : ¬ 3 ≤ ((b.formatting.takeWhile (· != .marker)).filter (openedBy tag)).length := by
    rw [h.formatting_eq]
    omega
  rw [limitEntries]
  exact if_neg hfew

/-- No link is ended by another one. -/
theorem Ready.closeLink_eq (h : b.Ready mode ids es page)
    (hno : (recent (es.map Open.label)).any (Label.isAny ["a"]) = false) : b.closeLink = b := by
  have hnone : latest? "a" b.formatting = none := by
    rw [h.formatting_eq]
    refine latest?_eq_none (fun x hx => name_of_mem_zip hx) ?_
    rw [h.map_label_zip, hno]
  rw [closeLink, hnone]

/-- No form is remembered where none is open. -/
theorem formOf_eq_none (hno : ∀ l ∈ es.map Open.label, Label.isAny ["form"] l = false) :
    formOf (ids.zip (es.map Open.opening)) = none := by
  rw [formOf, Option.map_eq_none_iff, List.find?_eq_none]
  intro x hx
  obtain ⟨o, ho, hopening⟩ := List.mem_map.mp (List.of_mem_zip hx).2
  have hl := hno o.label (List.mem_map_of_mem ho)
  rw [← hopening]
  simpa [Open.opening] using hl

/-! ## Opening tags -/

/-- An element that leaves everything else as it is. -/
theorem Ready.enter (h : b.Ready (modeOf outer) ids (e :: es) page) (has : Settled .html as)
    (hsmall : isSmallName tag.toList = true) (htag : tag ∉ markedTags ++ modeTags) :
    (b.insert (readTag tag as)).Ready (modeOf ((.html, tag) :: outer)) (b.store.cells.size :: ids)
      ({ tag, attributes := as } :: e :: es) page := by
  rw [List.mem_append, not_or] at htag
  have hmarked : Label.isAny markedTags (.html, tag) = false := by simpa [Label.isAny] using htag.1
  have htemplate : tag ≠ "template" := by
    rintro rfl
    exact htag.1 (by decide)
  rw [h.insert_eq has (readName_of_isSmallName hsmall) htemplate,
    modeOf_cons (by simpa [Label.isAny] using htag.2)]
  exact h.entered hmarked as

theorem Ready.openForm (h : b.Ready (modeOf outer) ids (e :: es) page) (has : Settled .html as)
    (hp : paragraphOpen ((e :: es).map Open.label) = false)
    (hno : ∀ l ∈ (e :: es).map Open.label, Label.isAny ["form"] l = false) :
    (b.openForm (readTag "form" as)).Ready (modeOf ((.html, "form") :: outer))
      (b.store.cells.size :: ids) ({ tag := "form", attributes := as } :: e :: es) page := by
  have hinsert : b.insertAndOpen .html (readTag "form" as).name
      (plainAttributes (readTag "form" as)) =
        (b.store.cells.size, b.entered .html "form" as) := by
    rw [has.plainAttributes_eq, h.insertAndOpen_eq rfl, Attribute.addMissing_nil has.sorted]
    rfl
  have hentered : (b.entered .html "form" as).Shown (b.store.cells.size :: ids)
      ({ tag := "form", attributes := as } :: e :: es) page := h.toShown.entered rfl as
  have heq : b.openForm (readTag "form" as) =
      { b.entered .html "form" as with form := some b.store.cells.size } := by
    rw [Builder.openForm, h.form_eq, formOf_eq_none hno, h.closeParagraph_eq hp, hinsert]
    simp [hentered.hasOpenTemplate_eq]
  rw [heq, modeOf_cons rfl]
  exact { hentered with
    mode_eq := h.mode_eq
    formatting_eq := h.formatting_eq.trans (remembered_cons rfl _ _ _).symm
    form_eq := rfl }

theorem Ready.openTable (h : b.Ready mode ids (e :: es) page) (has : Settled .html as)
    (hp : paragraphOpen ((e :: es).map Open.label) = false) :
    (b.bodyTag (readTag "table" as)).Ready .inTable
      (b.store.cells.size :: ids) ({ tag := "table", attributes := as } :: e :: es) page := by
  have hname : (readTag "table" as).name = "table" := (by decide : readName "table" = "table")
  have hold : (if b.oldRules then b else b.closeParagraph) = b := by
    rw [h.closeParagraph_eq hp, ite_self]
  rw [bodyTag_table b hname, hold, h.insert_eq has (by decide) (by decide)]
  exact ((h.entered rfl as).keepBody).withMode _

/-- A formatting element is remembered. -/
theorem Ready.insertFormatting (h : b.Ready (modeOf outer) ids (e :: es) page)
    (has : Settled .html as) (htag : tag ∈ formattingNames)
    (hcount : (recent ((e :: es).map Open.label)).countP (Label.isAny [tag]) < 3) :
    (b.insertFormatting (readTag tag as)).Ready (modeOf ((.html, tag) :: outer))
      (b.store.cells.size :: ids) ({ tag, attributes := as } :: e :: es) page := by
  have hnames : ∀ name ∈ formattingNames, isSmallName name.toList = true ∧ name ≠ "template" ∧
      name ∉ markerTags ∧ name ∉ modeTags ∧ name ≠ "form" := by decide
  obtain ⟨hsmall, htemplate, hmarker, hmode, hform⟩ := hnames tag htag
  have hread : (readTag tag as).name = tag := readName_of_isSmallName hsmall
  have hkept : Label.isAny ["template"] (.html, tag) = false := by simp [Label.isAny, htemplate]
  have hinsert : b.insertAndOpen .html (readTag tag as).name (plainAttributes (readTag tag as)) =
      (b.store.cells.size, b.entered .html tag as) := by
    rw [has.plainAttributes_eq, hread, h.insertAndOpen_eq hkept,
      Attribute.addMissing_nil has.sorted]
  have heq : b.insertFormatting (readTag tag as) = { b.entered .html tag as with
      formatting := .element b.store.cells.size (readTag tag as) :: b.formatting } := by
    rw [Builder.insertFormatting, h.limitEntries_eq _ (by rw [hread]; exact hcount), hinsert]
  rw [heq, modeOf_cons (by simpa [Label.isAny] using hmode)]
  exact { h.toShown.entered hkept as with
    mode_eq := h.mode_eq
    formatting_eq := by
      have hl : Label.isAny formattingNames (.html, tag) = true := by simpa [Label.isAny] using htag
      have hm : Label.isAny markerTags (.html, tag) = false := by simpa [Label.isAny] using hmarker
      simp [remembered, Open.opening, Open.label, hl, hm, h.formatting_eq]
    form_eq := h.form_eq.trans
      (formOf_cons (by simpa [Label.isAny, Open.label] using hform) _ _ _).symm }

/-- **A formatting element that ends no other one.** -/
theorem Ready.openFormatting (h : b.Ready (modeOf outer) ids (e :: es) page)
    (has : Settled .html as) (htag : tag ∈ formattingNames)
    (hstarts : startsFormatting ((e :: es).map Open.label) tag = true) :
    (b.bodyTag (readTag tag as)).Ready (modeOf ((.html, tag) :: outer))
      (b.store.cells.size :: ids) ({ tag, attributes := as } :: e :: es) page := by
  have hnames : ∀ name ∈ formattingNames, isSmallName name.toList = true := by decide
  have hread : (readTag tag as).name = tag := readName_of_isSmallName (hnames tag htag)
  simp only [startsFormatting, Bool.and_eq_true, Bool.not_eq_true', Bool.and_eq_false_imp,
    beq_iff_eq, decide_eq_true_eq] at hstarts
  obtain ⟨⟨hlink, hnobr⟩, hcount⟩ := hstarts
  have hinserted := h.insertFormatting has htag hcount
  by_cases hname : tag = "nobr"
  · have hscope : b.inScope ["nobr"] = false := (h.inScopeOf_eq [] ["nobr"]).trans (hnobr hname)
    rw [bodyTag_nobr b (hread.trans hname), h.reopenFormatting_eq, hscope,
      if_neg Bool.false_ne_true]
    exact hinserted
  · have hfamily : (readTag tag as).name ∈ "a" :: formattingTags := by
      rw [hread]
      simpa [formattingNames, hname] using htag
    have hkept : (if (readTag tag as).name = "a" then b.closeLink else b) = b := by
      split
      · rename_i ha
        exact h.closeLink_eq (hlink (hread.symm.trans ha))
      · rfl
    rw [bodyTag_formatting b hfamily, hkept, h.reopenFormatting_eq]
    exact hinserted

/-- An element that formatting does not enter leaves a marker. -/
theorem Ready.enterMarked (h : b.Ready mode ids (e :: es) page) (htag : tag ∈ markerTags)
    (as : List Attribute) :
    { b.entered .html tag as with formatting := .marker :: b.formatting }.Ready mode
      (b.store.cells.size :: ids) ({ tag, attributes := as } :: e :: es) page := by
  have hnames : ∀ name ∈ markerTags, name ≠ "template" ∧ name ≠ "form" := by decide
  obtain ⟨htemplate, hform⟩ := hnames tag htag
  exact { h.toShown.entered (by simp [Label.isAny, htemplate]) as with
    mode_eq := h.mode_eq
    formatting_eq := by
      have hmarker : Label.isAny markerTags (.html, tag) = true := by simpa [Label.isAny] using htag
      simp [remembered, Open.opening, Open.label, hmarker, h.formatting_eq]
    form_eq := h.form_eq.trans
      (formOf_cons (by simpa [Label.isAny, Open.label] using hform) _ _ _).symm }

theorem Ready.openHolder (h : b.Ready (modeOf outer) ids (e :: es) page)
    (has : Settled .html as) (htag : tag ∈ holderTags) :
    (b.bodyTag (readTag tag as)).Ready (modeOf ((.html, tag) :: outer))
      (b.store.cells.size :: ids) ({ tag, attributes := as } :: e :: es) page := by
  have hnames : ∀ name ∈ holderTags, isSmallName name.toList = true ∧ name ≠ "template" ∧
      name ∈ markerTags ∧ name ∉ modeTags := by decide
  obtain ⟨hsmall, htemplate, hmarker, hmode⟩ := hnames tag htag
  have hread : (readTag tag as).name = tag := readName_of_isSmallName hsmall
  rw [bodyTag_holder b (hread.symm ▸ htag), h.reopenFormatting_eq, h.insert_eq has hread htemplate,
    modeOf_cons (by simpa [Label.isAny] using hmode)]
  exact (h.enterMarked hmarker as).keepBody

/-- A selection. -/
theorem Ready.openSelect (h : b.Ready (modeOf outer) ids (e :: es) page)
    (hmodes : modeOf outer ∈ [.inBody, .inCell, .inCaption]) (has : Settled .html as)
    (hmode : modeOf ((.html, "select") :: outer) =
      if modeOf outer = .inBody then .inSelect else .inSelectInTable) :
    (b.bodyTag (readTag "select" as)).Ready (modeOf ((.html, "select") :: outer))
      (b.store.cells.size :: ids) ({ tag := "select", attributes := as } :: e :: es) page := by
  have hname : (readTag "select" as).name = "select" := (by decide : readName "select" = "select")
  have hselect : (if [.inTable, .inCaption, .inTableBody, .inRow, .inCell].contains b.mode then
      Mode.inSelectInTable else .inSelect) = modeOf ((.html, "select") :: outer) := by
    rw [hmode, h.mode_eq]
    simp only [List.mem_cons, List.not_mem_nil, or_false] at hmodes
    rcases hmodes with hmodes | hmodes | hmodes <;> rw [hmodes] <;> rfl
  rw [bodyTag_select b hname, Builder.openSelect]
  simp only [hselect, h.reopenFormatting_eq]
  rw [h.insert_eq has (by decide) (by decide)]
  exact ((h.entered rfl as).keepBody).withMode _

theorem insertForeign_eq (b : Builder) (space : Space) (tag : Tag) :
    b.insertForeign space tag =
      if tag.selfClosing then
        (b.insertAndOpen space tag.name
          (tag.attributes.map fun p => foreignAttribute space p.1 p.2)).2.pop
      else
        (b.insertAndOpen space tag.name
          (tag.attributes.map fun p => foreignAttribute space p.1 p.2)).2 := rfl

/-- An element of a drawing or a formula. -/
theorem Ready.insertForeign (h : b.Ready (modeOf outer) ids (e :: es) page) {space : Space}
    (hspace : space ≠ .html) (as : List Attribute) (given : Tag) (hname : given.name = tag)
    (hvalues : given.attributes = readValues as) (hopen : given.selfClosing = false) :
    (b.insertForeign space given).Ready (modeOf ((space, tag) :: outer))
      (b.store.cells.size :: ids)
      ({ space, tag, attributes := Attribute.placed space as } :: e :: es) page := by
  have hinsert := h.insertAndOpen_eq (Label.isAny_of_ne_html hspace ["template"] tag)
    (given.attributes.map fun p => foreignAttribute space p.1 p.2)
  rw [hvalues, map_foreignAttribute hspace, ← Attribute.placed, ← hname] at hinsert
  have heq : b.insertForeign space given = b.entered space tag (Attribute.placed space as) := by
    rw [insertForeign_eq, hvalues, map_foreignAttribute hspace, hinsert, hopen, hname]
    rfl
  rw [heq, modeOf_cons (Label.isAny_of_ne_html hspace _ _)]
  exact h.entered (Label.isAny_of_ne_html hspace _ _) _

/-- **An opening tag in running text opens its element.** -/
theorem Ready.bodyTag (h : b.Ready (modeOf outer) ids (e :: es) page)
    (hes : (e :: es).map Open.label = outer) (hrules : rulesIn outer = .text)
    (hopens : opensInText outer tag = true) (hroot : tag ∉ ["math", "svg"])
    (has : Settled .html as) :
    (b.bodyTag (readTag tag as)).Ready (modeOf ((.html, tag) :: outer)) (b.store.cells.size :: ids)
      ({ tag, attributes := as } :: e :: es) page := by
  -- the elements that leave everything else as it is
  have henter : ∀ {family : List String}, tag ∈ family → (∀ name ∈ family,
      isSmallName name.toList = true ∧ name ∉ markedTags ++ modeTags) →
        (readTag tag as).name = tag ∧ (b.insert (readTag tag as)).Ready
          (modeOf ((.html, tag) :: outer)) (b.store.cells.size :: ids)
            ({ tag, attributes := as } :: e :: es) page := by
    intro family htag hfamily
    obtain ⟨hsmall, hquiet⟩ := hfamily tag htag
    exact ⟨readName_of_isSmallName hsmall, h.enter has hsmall hquiet⟩
  subst hes
  cases opensInText_of hopens with
  | block htag hp =>
      obtain ⟨hname, hinsert⟩ := henter htag (by decide)
      by_cases hblock : tag ∈ "p" :: blockTags
      · rw [bodyTag_block b (hname.symm ▸ hblock), h.closeParagraph_eq hp]
        exact hinsert
      · have hpre : tag ∈ ["pre", "listing"] := by
          simp only [paragraphEnds, List.mem_cons, not_or] at htag hblock
          simpa [hblock] using htag
        rw [bodyTag_preformatted b (hname.symm ▸ hpre), h.closeParagraph_eq hp]
        exact { hinsert with }
  | heading htag hp hparent =>
      obtain ⟨hname, hinsert⟩ := henter htag (by decide)
      rw [bodyTag_heading b (hname.symm ▸ htag), h.closeParagraph_eq hp, h.current_eq]
      simpa [show Label.isAny headingTags e.label = false from hparent] using hinsert
  | listItem htag hp hends =>
      obtain ⟨hname, hinsert⟩ := henter (List.mem_singleton.mpr htag) (by decide)
      have hli : (readTag tag as).name = "li" := hname.trans htag
      rw [bodyTag_item b (by rw [hli]; decide), h.openItem_eq hp (by rw [if_pos hli]; exact hends)]
      exact hinsert.keepBody
  | term htag hp hends =>
      obtain ⟨hname, hinsert⟩ := henter htag (by decide)
      have hli : tag ≠ "li" := by
        rintro rfl
        exact absurd htag (by decide)
      rw [bodyTag_item b (by rw [hname]; exact List.mem_cons_of_mem _ htag),
        h.openItem_eq hp (by simpa [hname, hli] using hends)]
      exact hinsert.keepBody
  | form htag hp hno =>
      subst htag
      have hname : (readTag "form" as).name = "form" := (by decide : readName "form" = "form")
      rw [bodyTag_form b hname]
      exact h.openForm has hp hno
  | table htag hp =>
      subst htag
      exact h.openTable has hp
  | button htag hscope =>
      obtain ⟨hname, hinsert⟩ := henter (List.mem_singleton.mpr htag) (by decide)
      have hscope : b.inScope ["button"] = false := (h.inScopeOf_eq [] ["button"]).trans hscope
      rw [bodyTag_button b (hname.trans htag), openButton, hscope]
      simp only [Bool.false_eq_true, if_false, h.reopenFormatting_eq]
      exact hinsert.keepBody
  | formatting htag hstarts => exact h.openFormatting has htag hstarts
  | holder htag => exact h.openHolder has htag
  | select htag hmode =>
      subst htag
      exact h.openSelect (of_rulesIn hrules (by decide) (by decide)).2.1 has hmode
  | option htag hparent =>
      obtain ⟨hname, hinsert⟩ := henter htag (by decide)
      have hcurrent : b.current ["option"] = false := (h.current_eq ["option"]).trans hparent
      rw [bodyTag_option b (hname.symm ▸ htag), hcurrent, if_neg Bool.false_ne_true,
        h.reopenFormatting_eq]
      exact hinsert
  | ruby except htag hends =>
      obtain ⟨hname, hinsert⟩ := henter (mem_of_ruby htag) (by decide)
      have hkept : (if b.inScope ["ruby"] then b.closeImplied except else b) = b := by
        split
        · rename_i hscope
          refine h.closeImplied_eq ?_
          have hruby : isInScope [] "ruby" ((e :: es).map Open.label) = true :=
            (h.inScopeOf_eq [] ["ruby"]).symm.trans hscope
          rw [endsInRuby, hruby, Bool.true_and] at hends
          exact hends
        · rfl
      rw [bodyTag_ruby b (hname.symm ▸ htag), hkept]
      exact hinsert
  | root htag => exact absurd htag hroot
  | plain hsmall htag _ =>
      have hruled : ∀ name ∈ markedTags ++ modeTags, name ∈ ruledTags := by decide
      have hquiet : tag ∉ markedTags ++ modeTags := fun hmem => htag (hruled tag hmem)
      have hname : (readTag tag as).name = tag := readName_of_isSmallName hsmall
      rw [bodyTag_plain b (hname.symm ▸ htag), h.reopenFormatting_eq]
      exact h.enter has hsmall hquiet

/-- **So does that of a drawing or a formula.** -/
theorem Ready.bodyTag_root (h : b.Ready (modeOf outer) ids (e :: es) page)
    (htag : tag ∈ ["math", "svg"]) (as : List Attribute) :
    (b.bodyTag (readTag tag as)).Ready (modeOf ((vocabularyOf tag, tag) :: outer))
      (b.store.cells.size :: ids)
      ({ space := vocabularyOf tag, tag, attributes := Attribute.placed (vocabularyOf tag) as } ::
        e :: es) page := by
  have hfamily : ∀ name ∈ ["math", "svg"], readName name = name ∧ vocabularyOf name ≠ .html := by
    decide
  obtain ⟨hread, hspace⟩ := hfamily tag htag
  have hname : (readTag tag as).name = tag := hread
  rw [Builder.bodyTag_root b (hname.symm ▸ htag), hname]
  exact h.insertForeign hspace as _ hname rfl rfl

end Ready

end Builder

end Expectation.Html
