import Expectation.Proofs.Html.TableRules

/-!
# Elements by any rules

Whichever rules apply inside the open elements, an element that is opened where its tag stands is
opened by one step and closed by another one; and so it is with elements without content, comments
and characters, which take one step.

## Main results

* `Ready.openElement`, `Ready.closeElement`: the two tags of an element.
* `Ready.insertElement`: the tag of an element without content.
* `Ready.takeComment`, `Ready.takeChar`: comments and characters.
-/

namespace Expectation.Html

/-- The names that are spelled anew are the same up to case. -/
theorem sameName_respell (names : List String) (name : String) :
    Text.sameName (Builder.respell names name) name = true := by
  rw [Builder.respell]
  cases hfind : names.find? (Text.sameName · name) with
  | none => simp
  | some found =>
      have hfound := List.find?_some hfind
      exact hfound

namespace Builder

section Ready

variable {b : Builder} {mode : Mode} {i : Nat} {ids : List Nat} {e e' : Open} {es : List Open}
  {page : Frame} {outer : List Label} {tag : String} {as : List Attribute}

/-! ## Whose rules apply -/

/-- Outside of drawings, tags and characters are placed by the rules of the page. -/
theorem Shown.step_page (h : b.Shown ids (e :: es) page)
    (hpage : inDrawing ((e :: es).map Open.label) = false) {token : Token}
    (htoken : match token with
      | .opening tag => tag.name ∉ glyphTags
      | .char _ => True
      | _ => False) : b.step token = b.modeStep token := by
  obtain ⟨i, rest, rfl, hlabel⟩ := h.exists_top
  obtain ⟨space, name, as, kids, behind⟩ := e
  cases space with
  | html => exact h.step_html rfl token
  | svg =>
      have hholder : b.isSvgHolder i = true := by
        simpa [inDrawing, Open.label, Label.isMathText, Label.isSvgHolder, isSvgHolder, hlabel]
          using hpage
      have hforeign : b.isForeign token = false := by
        cases token <;> simp_all [isForeign, h.opened_eq, Open.label]
      rw [step, hforeign, if_neg Bool.false_ne_true]
  | math =>
      have htext : b.isMathText i = true := by
        simpa [inDrawing, Open.label, Label.isMathText, Label.isSvgHolder, isMathText, hlabel]
          using hpage
      have hforeign : b.isForeign token = false := by
        cases token <;> simp_all [isForeign, h.opened_eq, Open.label, glyphTags]
      rw [step, hforeign, if_neg Bool.false_ne_true]

/-- An element of a drawing or a formula. -/
theorem space_ne_of_inDrawing (h : inDrawing ((e :: es).map Open.label) = true) :
    e.space ≠ .html := by
  intro hspace
  simp [inDrawing, Open.label, hspace] at h

/-- An element of the page. -/
theorem space_of_isInnermost {tags : List String}
    (h : isInnermost tags ((e :: es).map Open.label) = true) : e.space = .html := by
  obtain ⟨name, rest, hlabels, -⟩ := eq_cons_of_isInnermost h
  exact congrArg Prod.fst (List.cons.inj hlabels).1

/-- The closing tag of such an element finds it. -/
theorem of_opensInDrawing (h : opensInDrawing outer tag as = true) :
    Text.sameName tag (readName tag) = true ∧ readName tag ∉ pageClosings := by
  simp only [opensInDrawing, staysInDrawing, Bool.and_eq_true, Bool.not_eq_true',
    List.contains_eq_mem, decide_eq_false_iff_not] at h
  obtain ⟨⟨-, hpage, -⟩, hname⟩ := h
  have hclosings : ∀ name ∈ pageClosings, name ∈ pageTags := by decide
  refine ⟨?_, fun hmem => hpage (hclosings _ hmem)⟩
  split at hname
  · have hsame := sameName_respell svgTags (readName tag)
    rwa [beq_iff_eq.mp hname] at hsame
  · simp only [Bool.and_eq_true, beq_iff_eq] at hname
    rw [hname.1]
    exact Text.sameName_refl tag
  · simp at hname

/-- A tag that does not leave a drawing opens an element of it. -/
theorem foreignStep_opening (page : Builder → Token → Outcome) (b : Builder)
    (h : staysInDrawing tag as = true) :
    b.foreignStep page (.opening (readTag tag as)) =
      .done (b.openForeign (readTag tag as)) := by
  simp only [staysInDrawing, Bool.and_eq_true, Bool.not_eq_true'] at h
  rw [foreignStep]
  simp only [readTag, h.1, Bool.false_or]
  exact if_neg (Bool.eq_false_iff.mp h.2)

/-- **The opening tag of an element of a drawing or a formula.** -/
theorem Ready.openInDrawing (h : b.Ready (modeOf outer) ids (e :: es) page)
    (hes : (e :: es).map Open.label = outer) (hdrawing : inDrawing outer = true)
    (hopens : opensInDrawing outer tag as = true) :
    ∃ b', b.step (.opening (readTag tag as)) = .done b' ∧
      b'.Ready (modeOf ((e.space, tag) :: outer)) (b.store.cells.size :: ids)
        ({ space := e.space, tag, attributes := Attribute.placed e.space as } :: e :: es) page := by
  subst hes
  have hspace := space_ne_of_inDrawing hdrawing
  obtain ⟨i, rest, rfl, hlabel⟩ := h.exists_top
  simp only [opensInDrawing, Bool.and_eq_true] at hopens
  obtain ⟨⟨-, hstays⟩, hname⟩ := hopens
  obtain ⟨space, parent, values, kids, behind⟩ := e
  cases space with
  | html => exact absurd rfl hspace
  | svg =>
      have hname : respell svgTags (readName tag) = tag := by simpa [Open.label] using hname
      have hforeign : b.isForeign (.opening (readTag tag as)) = true := by
        simp_all [isForeign, inDrawing, h.opened_eq, Open.label, Label.isMathText,
          Label.isSvgHolder, isMathText, isSvgHolder]
      have hopened : b.openForeign (readTag tag as) =
          b.insertForeign .svg { readTag tag as with name := tag } := by
        simp [openForeign, h.opened_eq, hlabel, Open.label, readTag, hname]
      refine ⟨_, ?_, h.insertForeign hspace as { readTag tag as with name := tag } rfl rfl rfl⟩
      rw [step, if_pos hforeign, foreignStep_opening _ _ hstays, hopened]
  | math =>
      obtain ⟨hread, hdrawn⟩ : readName tag = tag ∧ (parent = "annotation-xml" → tag ≠ "svg") := by
        simpa [Open.label, imp_iff_not_or] using hname
      have hforeign : b.isForeign (.opening (readTag tag as)) = true := by
        have hname : (readTag tag as).name = tag := hread
        simp_all [isForeign, inDrawing, h.opened_eq, Open.label, Label.isMathText,
          Label.isSvgHolder, isMathText, isSvgHolder]
      have hopened : b.openForeign (readTag tag as) = b.insertForeign .math (readTag tag as) := by
        simp [openForeign, h.opened_eq, hlabel, Open.label]
      refine ⟨_, ?_, h.insertForeign hspace as (readTag tag as) hread rfl rfl⟩
      rw [step, if_pos hforeign, foreignStep_opening _ _ hstays, hopened]

/-- The names of the elements of running text. -/
theorem of_opensInText (h : opensInText outer tag = true) :
    isSmallName tag.toList = true ∧ tag ∉ glyphTags ∧ tag ∉ partTags ∧
      (tag ∈ partClosings ++ modeTags → tag ∈ ["table", "select"]) := by
  have hfamily : ∀ {family : List String}, tag ∈ family → (∀ name ∈ family,
      isSmallName name.toList = true ∧ name ∉ glyphTags ∧ name ∉ partTags ∧
        (name ∈ partClosings ++ modeTags → name ∈ ["table", "select"])) →
      isSmallName tag.toList = true ∧ tag ∉ glyphTags ∧ tag ∉ partTags ∧
        (tag ∈ partClosings ++ modeTags → tag ∈ ["table", "select"]) :=
    fun hmem hall => hall tag hmem
  cases opensInText_of h with
  | block htag | heading htag | term htag | formatting htag | holder htag | option htag
  | root htag => exact hfamily htag (by decide)
  | listItem htag | form htag | table htag | button htag | select htag =>
      exact hfamily (List.mem_singleton.mpr htag) (by decide)
  | ruby except htag =>
      exact hfamily (mem_of_ruby htag) (by decide)
  | plain hsmall htag hglyph =>
      have hruled : ∀ name ∈ partTags ++ (partClosings ++ modeTags), name ∈ ruledTags := by decide
      have hnone : tag ∉ partTags ++ (partClosings ++ modeTags) := fun hmem =>
        htag (hruled tag hmem)
      rw [List.mem_append, not_or] at hnone
      exact ⟨hsmall, hglyph, hnone.1, fun hmem => absurd hmem hnone.2⟩

/-- **The opening tag of an element** opens it. -/
theorem Ready.openElement (h : b.Ready (modeOf outer) ids (e :: es) page)
    (hes : (e :: es).map Open.label = outer) (hopens : opensIn outer tag as = true)
    (has : Settled (spaceIn outer tag) as) :
    ∃ b', b.step (.opening (readTag tag as)) = .done b' ∧
      b'.Ready (modeOf ((spaceIn outer tag, tag) :: outer)) (b.store.cells.size :: ids)
        ({ space := spaceIn outer tag, tag,
           attributes := Attribute.placed (spaceIn outer tag) as } :: e :: es) page := by
  rw [opensIn] at hopens
  cases hrules : rulesIn outer with
  | text =>
      rw [hrules] at hopens
      obtain ⟨hpage, hmode, -⟩ := of_rulesIn hrules (by decide) (by decide)
      obtain ⟨hsmall, hglyph, hpart, -⟩ := of_opensInText hopens
      have hread : (readTag tag as).name = tag := readName_of_isSmallName hsmall
      have hspace : spaceIn outer tag = vocabularyOf tag := by simp [spaceIn, hpage]
      have hstep : b.step (.opening (readTag tag as)) = .done (b.bodyTag (readTag tag as)) := by
        rw [h.step_page (hes ▸ hpage) (by simpa [hread] using hglyph),
          modeStep_opening b (h.mode_eq ▸ hmode) (by simpa [hread] using hpart)]
      refine ⟨_, hstep, ?_⟩
      rw [hspace] at has ⊢
      by_cases hroot : tag ∈ ["math", "svg"]
      · exact h.bodyTag_root hroot as
      · rw [vocabularyOf_eq_html hroot] at has ⊢
        rw [has.placed_eq]
        exact h.bodyTag hes hrules hopens hroot has
  | parts =>
      rw [hrules] at hopens
      obtain ⟨hpage, -, hinnermost⟩ := of_rulesIn hrules (by decide) (by decide)
      have hnames : ∀ name ∈ ["caption", "colgroup", "tr"] ++ rowGroupTags ++ cellTags,
          vocabularyOf name = .html := by decide
      have hspace : spaceIn outer tag = .html := by
        simp [spaceIn, hpage, hnames tag (mem_of_opensInTable hopens)]
      rw [hspace] at has ⊢
      obtain ⟨b', hstep, h'⟩ := h.openInTable hes hopens has
      rw [has.placed_eq, h.step_html (space_of_isInnermost (hes ▸ hinnermost rfl))]
      exact ⟨b', hstep, h'⟩
  | options =>
      rw [hrules] at hopens
      obtain ⟨hpage, hmode, -⟩ := of_rulesIn hrules (by decide) (by decide)
      have hnames : ∀ name ∈ ["option", "optgroup"], vocabularyOf name = .html ∧
          readName name = name ∧ name ∉ glyphTags := by decide
      obtain ⟨hvocabulary, hread, hglyph⟩ := hnames tag (mem_of_opensInSelect hopens)
      have hspace : spaceIn outer tag = .html := by simp [spaceIn, hpage, hvocabulary]
      rw [hspace] at has ⊢
      obtain ⟨b', hstep, h'⟩ := h.openInSelect hes hmode hopens has
      have hname : (readTag tag as).name = tag := hread
      rw [has.placed_eq, h.step_page (hes ▸ hpage) (by simpa [hname] using hglyph)]
      exact ⟨b', hstep, h'⟩
  | drawing =>
      rw [hrules] at hopens
      have hdrawing : inDrawing outer = true := inDrawing_of_rulesIn hrules
      have hspace : spaceIn outer tag = e.space := by
        rw [spaceIn, if_pos hdrawing, ← hes]
        rfl
      rw [hspace]
      exact h.openInDrawing hes hdrawing hopens
  | head | columns | other => simp [hrules] at hopens

theorem selectModeOf_mem (outer : List Label) :
    selectModeOf outer ∈ [.inSelect, .inSelectInTable] := by
  induction outer with
  | nil => decide
  | cons l outer ih =>
      rw [selectModeOf]
      split
      · decide
      · exact ih

/-- The closing tag of an element of running text. -/
theorem Ready.closeInText
    (h : b.Ready (modeOf ((vocabularyOf tag, tag) :: outer)) (i :: ids) (e :: e' :: es) page)
    (htop : e.label = (vocabularyOf tag, tag)) (hes : (e' :: es).map Open.label = outer)
    (hmode : modeOf outer ∈ modesWith .text) (hopens : opensInText outer tag = true) :
    ∃ b', b.step (.closing tag) = .done b' ∧
      b'.Ready (modeOf outer) ids (e'.add e.tree :: es) page := by
  obtain ⟨hsmall, -, -, hmoded⟩ := of_opensInText hopens
  obtain ⟨hspace, htag⟩ := Prod.mk.inj htop
  by_cases hroot : tag ∈ ["math", "svg"]
  · have hnames : ∀ name ∈ ["math", "svg"], vocabularyOf name ≠ .html ∧ readName name = name ∧
        name ∉ pageClosings := by decide
    obtain ⟨hvocabulary, hread, hpage⟩ := hnames tag hroot
    rw [modeOf_cons (Label.isAny_of_ne_html hvocabulary _ _)] at h
    have hclosed := h.closeForeign (hspace ▸ hvocabulary) (by simp [htag, hread])
      (by simpa [htag, hread] using hpage)
    rwa [htag, hread] at hclosed
  have hhtml := vocabularyOf_eq_html hroot
  rw [hhtml] at h htop hspace
  rw [h.step_html hspace]
  have hback : modeOf ((e' :: es).map Open.label) ≠ .afterHead := by
    rw [hes]
    intro hafter
    rw [hafter] at hmode
    exact absurd hmode (by decide)
  have hscope : ∀ ends, inScopeOf ends (b.isAny [tag]) b.opened = true :=
    h.inScopeOf_top (by simp [htop, Label.isAny])
  by_cases hother : tag ∈ ["table", "select"]
  · have hclosed := h.popThrough_resetMode htop (by
      have hnames : ∀ name ∈ ["table", "select"], name ∉ markedTags := by decide
      exact hnames tag hother) hback
    rw [hes] at hclosed
    refine ⟨_, ?_, hclosed⟩
    simp only [List.mem_cons, List.not_mem_nil, or_false] at hother
    rcases hother with rfl | rfl
    · have htable : b.mode = .inTable := h.mode_eq
      have hinside : b.inTableScope ["table"] = true := hscope _
      simp [modeStep, htable, tableStep, hinside]
    · have hselect : b.mode ∈ [.inSelect, .inSelectInTable] := h.mode_eq ▸ selectModeOf_mem outer
      have hinside : b.inSelectScope ["select"] = true := hscope _
      rw [modeStep_selection b hselect (by decide)]
      simp [selectStep, closeSelect, hinside]
  · have hquiet : tag ∉ partClosings ++ modeTags := fun hmem => hother (hmoded hmem)
    rw [List.mem_append, not_or] at hquiet
    rw [modeOf_cons (by simpa [Label.isAny] using hquiet.2)] at h
    have hnone : tag ∉ ["table", "select", "math", "svg"] := by
      simp only [List.mem_cons, List.not_mem_nil, or_false, not_or] at hroot hother ⊢
      exact ⟨hother.1, hother.2, hroot.1, hroot.2⟩
    refine ⟨_, modeStep_closing b (h.mode_eq ▸ hmode) hquiet.1, ?_⟩
    exact h.bodyClosing htop hes hopens hnone

/-- **The closing tag of an element** closes it. -/
theorem Ready.closeElement
    (h : b.Ready (modeOf ((spaceIn outer tag, tag) :: outer)) (i :: ids) (e :: e' :: es) page)
    (htop : e.label = (spaceIn outer tag, tag)) (hes : (e' :: es).map Open.label = outer)
    (hopens : opensIn outer tag as = true) :
    ∃ b', b.step (.closing (readName tag)) = .done b' ∧
      b'.Ready (modeOf outer) ids (e'.add e.tree :: es) page := by
  rw [opensIn] at hopens
  cases hrules : rulesIn outer with
  | text =>
      rw [hrules] at hopens
      obtain ⟨hpage, hmode, -⟩ := of_rulesIn hrules (by decide) (by decide)
      have hspace : spaceIn outer tag = vocabularyOf tag := by simp [spaceIn, hpage]
      rw [hspace] at h htop
      rw [readName_of_isSmallName (of_opensInText hopens).1]
      exact h.closeInText htop hes hmode hopens
  | parts =>
      rw [hrules] at hopens
      obtain ⟨hpage, -, -⟩ := of_rulesIn hrules (by decide) (by decide)
      have hnames : ∀ name ∈ ["caption", "colgroup", "tr"] ++ rowGroupTags ++ cellTags,
          vocabularyOf name = .html ∧ readName name = name := by decide
      obtain ⟨hvocabulary, hread⟩ := hnames tag (mem_of_opensInTable hopens)
      have hspace : spaceIn outer tag = .html := by simp [spaceIn, hpage, hvocabulary]
      rw [hspace] at h htop
      rw [hread, h.step_html (Prod.mk.inj htop).1]
      exact h.closeInTable htop hes hopens
  | options =>
      rw [hrules] at hopens
      obtain ⟨hpage, hmode, -⟩ := of_rulesIn hrules (by decide) (by decide)
      have hnames : ∀ name ∈ ["option", "optgroup"], vocabularyOf name = .html ∧
          readName name = name := by decide
      have htag := mem_of_opensInSelect hopens
      obtain ⟨hvocabulary, hread⟩ := hnames tag htag
      have hspace : spaceIn outer tag = .html := by simp [spaceIn, hpage, hvocabulary]
      rw [hspace] at h htop
      rw [hread, h.step_html (Prod.mk.inj htop).1]
      exact h.closeInSelect htop hmode htag
  | drawing =>
      rw [hrules] at hopens
      have hdrawing : inDrawing outer = true := inDrawing_of_rulesIn hrules
      have hspace : spaceIn outer tag = e'.space := by
        rw [spaceIn, if_pos hdrawing, ← hes]
        rfl
      have hne : e'.space ≠ .html := space_ne_of_inDrawing (hes ▸ hdrawing)
      obtain ⟨hspace', htag⟩ := Prod.mk.inj htop
      rw [hspace] at h hspace'
      rw [modeOf_cons (Label.isAny_of_ne_html hne _ _)] at h
      obtain ⟨hsame, hpage⟩ := of_opensInDrawing hopens
      have hclosed := h.closeForeign (hspace' ▸ hne) (htag ▸ hsame) (htag ▸ hpage)
      rwa [htag] at hclosed
  | head | columns | other => simp [hrules] at hopens

/-! ## Elements without content -/

/-- The elements without content that stand in running text. -/
theorem Ready.insertInText (h : b.Ready mode ids (e :: es) page)
    (hstands : standsInText ((e :: es).map Open.label) tag = true) (has : Settled .html as) :
    (b.bodyTag (readTag tag as)).Ready mode ids (e.add (.element tag as []) :: es) page := by
  have hnames : ∀ name ∈ "hr" :: voidTextTags, readName name = name ∧ name ∉ markedTags ∧
      (name ∈ inlineVoidTags ∨ name ∈ describingVoidTags ∨ name = "input" ∨ name = "hr" ∨
        name ∈ headTags ∧ name ∈ headVoidTags) := by decide
  obtain ⟨hread, hmarked, hfamily⟩ := hnames tag (mem_of_standsInText hstands)
  have hname : (readTag tag as).name = tag := hread
  have hinsert := h.insertVoid has hread (by simpa [Label.isAny] using hmarked)
  rcases hfamily with hinline | hdescribing | rfl | rfl | ⟨hhead, hvoid⟩
  · rw [bodyTag_inlineVoid b (hname.symm ▸ hinline), insertInlineVoid, h.reopenFormatting_eq]
    exact hinsert.keepBody
  · rw [bodyTag_describingVoid b (hname.symm ▸ hdescribing)]
    exact hinsert
  · rw [bodyTag_input b hname, h.reopenFormatting_eq]
    split
    · exact hinsert
    · exact hinsert.keepBody
  · have hp : paragraphOpen ((e :: es).map Open.label) = false := by
      have hno : "hr" ∉ voidTextTags := by decide
      simpa [standsInText, hno] using hstands
    rw [bodyTag_rule b hname, h.closeParagraph_eq hp]
    exact hinsert.keepBody
  · rw [bodyTag_head b (hname.symm ▸ hhead), headTag?]
    simpa [hname, hvoid] using hinsert

/-- **The tag of an element without content** inserts it. -/
theorem Ready.insertElement (h : b.Ready (modeOf outer) ids (e :: es) page)
    (hes : (e :: es).map Open.label = outer) (hstands : standsIn outer tag as = true)
    (has : Settled .html as) :
    ∃ b', b.step (.opening (readTag tag as)) = .done b' ∧
      b'.Ready (modeOf outer) ids (e.add (.element tag as []) :: es) page := by
  rw [standsIn] at hstands
  -- where only some elements stand, each is put in as it is
  have hsome : ∀ {family : List String}, tag ∈ family → (∀ name ∈ family, readName name = name ∧
      name ∉ markedTags ∧ name ∉ glyphTags) → (readTag tag as).name = tag ∧
        (readTag tag as).name ∉ glyphTags ∧ (b.insertVoid (readTag tag as)).Ready (modeOf outer) ids
          (e.add (.element tag as []) :: es) page := by
    intro family htag hfamily
    obtain ⟨hread, hmarked, hglyph⟩ := hfamily tag htag
    have hname : (readTag tag as).name = tag := hread
    exact ⟨hname, hname.symm ▸ hglyph,
      h.insertVoid has hread (by simpa [Label.isAny] using hmarked)⟩
  subst hes
  cases hrules : rulesIn ((e :: es).map Open.label) with
  | text =>
      rw [hrules] at hstands
      obtain ⟨hpage, hmode, -⟩ := of_rulesIn hrules (by decide) (by decide)
      have hnames : ∀ name ∈ "hr" :: voidTextTags, readName name = name ∧ name ∉ glyphTags ∧
          name ∉ partTags := by decide
      obtain ⟨hread, hglyph, hpart⟩ := hnames tag (mem_of_standsInText hstands)
      have hname : (readTag tag as).name = tag := hread
      refine ⟨_, ?_, h.insertInText hstands has⟩
      rw [h.step_page hpage (by simpa [hname] using hglyph),
        modeStep_opening b (h.mode_eq ▸ hmode) (by simpa [hname] using hpart)]
  | head =>
      rw [hrules] at hstands
      obtain ⟨hpage, hmode, -⟩ := of_rulesIn hrules (by decide) (by decide)
      have hhead : b.mode = .inHead := h.mode_eq.trans (List.mem_singleton.mp hmode)
      have htag : tag ∈ ["base", "link", "meta"] := by simpa using hstands
      have hvoids : ∀ name ∈ ["base", "link", "meta"], name ∈ headVoidTags ∧ name ≠ "html" ∧
          name ≠ "head" := by decide
      obtain ⟨hvoid, hhtml, hother⟩ := hvoids tag htag
      obtain ⟨hname, hglyph, hinsert⟩ := hsome htag (by decide)
      refine ⟨_, ?_, hinsert⟩
      rw [h.step_page hpage hglyph]
      simp [modeStep, hhead, headStep, headTag?, hname, hvoid, hhtml, hother]
  | parts =>
      rw [hrules] at hstands
      obtain ⟨-, hmode, hinnermost⟩ := of_rulesIn hrules (by decide) (by decide)
      simp only [Bool.and_eq_true, beq_iff_eq] at hstands
      obtain ⟨hname, -, hinsert⟩ := hsome (List.mem_singleton.mpr hstands.1) (by decide)
      have hinput : (readTag tag as).name = "input" := hname.trans hstands.1
      refine ⟨_, ?_, hinsert⟩
      rw [h.step_html (space_of_isInnermost (hinnermost rfl)),
        modeStep_parts b (h.mode_eq ▸ hmode) (by simpa [hinput] using by decide)]
      have hothers : "input" ∉ rowGroupTags ++ cellTags := by decide
      rw [List.mem_append, not_or] at hothers
      simp [tableStep, tableTag?, hinput, hothers, hstands.2]
  | columns =>
      rw [hrules] at hstands
      obtain ⟨hpage, hmode, -⟩ := of_rulesIn hrules (by decide) (by decide)
      have hcolumns : b.mode = .inColumnGroup := h.mode_eq.trans (List.mem_singleton.mp hmode)
      have htag : tag = "col" := by simpa using hstands
      obtain ⟨hname, hglyph, hinsert⟩ := hsome (List.mem_singleton.mpr htag) (by decide)
      have hcol : (readTag tag as).name = "col" := hname.trans htag
      refine ⟨_, ?_, hinsert⟩
      rw [h.step_page hpage hglyph]
      simp [modeStep, hcolumns, columnGroupStep, hcol]
  | options =>
      rw [hrules] at hstands
      obtain ⟨hpage, hmode, -⟩ := of_rulesIn hrules (by decide) (by decide)
      simp only [Bool.and_eq_true, beq_iff_eq, Bool.not_eq_true'] at hstands
      obtain ⟨hname, hglyph, hinsert⟩ := hsome (List.mem_singleton.mpr hstands.1) (by decide)
      have hrule : (readTag tag as).name = "hr" := hname.trans hstands.1
      refine ⟨_, ?_, hinsert⟩
      rw [h.step_page hpage hglyph,
        modeStep_selection b (h.mode_eq ▸ hmode) (by simpa [hrule] using by decide)]
      simp [selectStep, hrule, h.closeOptions_eq hstands.2]
  | drawing | other =>
      rw [hrules] at hstands
      exact absurd hstands Bool.false_ne_true

/-! ## Comments -/

/-- The modes in which a comment is put where it stands. -/
def commentModes : List Mode :=
  [.beforeHead, .inHead, .afterHead, .inBody, .inTable, .inCaption, .inColumnGroup, .inTableBody,
    .inRow, .inCell, .inSelect, .inSelectInTable]

theorem modeStep_comment (b : Builder) (hmode : b.mode ∈ commentModes) (text : String) :
    b.modeStep (.comment text) = .done (b.insertComment text) := by
  simp only [commentModes, List.mem_cons, List.not_mem_nil, or_false] at hmode
  rcases hmode with hmode | hmode | hmode | hmode | hmode | hmode | hmode | hmode | hmode | hmode |
      hmode | hmode
  all_goals
    simp only [modeStep, hmode]
    rfl

/-- **A comment is put where it stands.** -/
theorem Ready.takeComment (h : b.Ready mode ids (e :: es) page)
    (hmode : e.space = .html → mode ∈ commentModes) (text : String) :
    b.step (.comment text) = .done (b.insertComment text) := by
  obtain ⟨i, rest, rfl, hlabel⟩ := h.exists_top
  by_cases hspace : e.space = .html
  · rw [h.step_html hspace, modeStep_comment b (h.mode_eq ▸ hmode hspace)]
  · have hforeign : b.isForeign (.comment text) = true := by
      rw [Open.label] at hlabel
      rw [isForeign, h.opened_eq]
      cases hs : e.space with
      | html => exact absurd hs hspace
      | svg | math => simp [hlabel, hs]
    rw [step, if_pos hforeign]
    rfl

/-- Comments stand wherever the rules are known. -/
theorem modeOf_mem_commentModes (hrules : rulesIn ((e :: es).map Open.label) ≠ .other)
    (hspace : e.space = .html) : modeOf ((e :: es).map Open.label) ∈ commentModes := by
  have hdrawing : rulesIn ((e :: es).map Open.label) ≠ .drawing := fun hdrawing =>
    space_ne_of_inDrawing (inDrawing_of_rulesIn hdrawing) hspace
  obtain ⟨-, hmode, -⟩ := of_rulesIn rfl hdrawing hrules
  have hmodes : ∀ rules mode, mode ∈ modesWith rules → mode ∈ commentModes := by
    intro rules
    cases rules <;> decide
  exact hmodes _ _ hmode

/-! ## Characters -/

/-- A character changes nothing but the tree. -/
theorem exists_insertChar (b : Builder) (c : Char) :
    ∃ store, b.insertChar c = { b with store } := by
  unfold Builder.insertChar
  split
  · exact ⟨_, rfl⟩
  · split <;> exact ⟨_, rfl⟩

@[simp] theorem skipNewline_insertChar (b : Builder) (c : Char) :
    (b.insertChar c).skipNewline = b.skipNewline := by
  obtain ⟨store, heq⟩ := b.exists_insertChar c
  rw [heq]

theorem Ready.bodyChar (h : b.Ready mode ids (e :: es) page) {c : Char} (hc : c ≠ '\x00') :
    (b.bodyChar c).Ready mode ids (e.addText c.toString :: es) page := by
  rw [Builder.bodyChar, if_neg hc]
  simp only [h.reopenFormatting_eq]
  split
  · exact h.insertChar c
  · exact (h.insertChar c).keepBody

/-- What a step makes of a builder that takes a character. -/
def Took (b b' : Builder) (mode : Mode) (ids : List Nat) (es : List Open) (page : Frame) : Prop :=
  b'.Ready mode ids es page ∧ b'.skipNewline = b.skipNewline

/-- A character in a drawing or a formula. -/
theorem Ready.takeDrawnChar (h : b.Ready mode ids (e :: es) page)
    (hdrawing : inDrawing ((e :: es).map Open.label) = true) {c : Char} (hc : c ≠ '\x00') :
    ∃ b', b.step (.char c) = .done b' ∧ b.Took b' mode ids (e.addText c.toString :: es) page := by
  obtain ⟨i, rest, rfl, hlabel⟩ := h.exists_top
  have hforeign : b.isForeign (.char c) = true := by
    obtain ⟨space, parent, values, kids, behind⟩ := e
    cases space <;> simp_all [isForeign, inDrawing, h.opened_eq, Open.label, Label.isMathText,
      Label.isSvgHolder, isMathText, isSvgHolder]
  have hinserted := h.insertChar c
  by_cases hfiller : isFiller c = true
  · exact ⟨_, by simp [step, hforeign, foreignStep, hc, hfiller], hinserted,
      skipNewline_insertChar b c⟩
  · exact ⟨_, by simp [step, hforeign, foreignStep, hc, hfiller], hinserted.keepBody,
      skipNewline_insertChar b c⟩

/-- **A character is added where text stands.** -/
theorem Ready.takeChar (h : b.Ready (modeOf outer) ids (e :: es) page)
    (hes : (e :: es).map Open.label = outer) (htakes : takesText outer = true) {c : Char}
    (hc : c ≠ '\x00') :
    ∃ b', b.step (.char c) = .done b' ∧
      b.Took b' (modeOf outer) ids (e.addText c.toString :: es) page := by
  subst hes
  rw [takesText] at htakes
  cases hrules : rulesIn ((e :: es).map Open.label) with
  | text =>
      obtain ⟨hpage, hmode, -⟩ := of_rulesIn hrules (by decide) (by decide)
      have hkept : (b.bodyChar c).skipNewline = b.skipNewline := by
        rw [Builder.bodyChar, if_neg hc]
        simp only [h.reopenFormatting_eq]
        split
        · exact skipNewline_insertChar b c
        · exact skipNewline_insertChar b c
      refine ⟨_, ?_, h.bodyChar hc, hkept⟩
      rw [h.step_page hpage trivial, modeStep_char b (h.mode_eq ▸ hmode)]
  | options =>
      obtain ⟨hpage, hmode, -⟩ := of_rulesIn hrules (by decide) (by decide)
      refine ⟨_, ?_, h.insertChar c, skipNewline_insertChar b c⟩
      rw [h.step_page hpage trivial, modeStep_selection b (h.mode_eq ▸ hmode) trivial]
      simp [selectStep, hc]
  | drawing => exact h.takeDrawnChar (inDrawing_of_rulesIn hrules) hc
  | head | parts | columns | other =>
      rw [hrules] at htakes
      exact absurd htakes (by decide)

/-- Whether blanks become text at once. -/
def takesBlanks (outer : List Label) : Bool :=
  takesText outer || [.head, .columns].contains (rulesIn outer)

/-- **A blank is added where text stands, and in the head and in a group of columns.** -/
theorem Ready.takeBlank (h : b.Ready (modeOf outer) ids (e :: es) page)
    (hes : (e :: es).map Open.label = outer) (htakes : takesBlanks outer = true) {c : Char}
    (hc : c = ' ' ∨ c = '\n') :
    ∃ b', b.step (.char c) = .done b' ∧
      b'.Ready (modeOf outer) ids (e.addText c.toString :: es) page := by
  have hfiller : isFiller c = true := by
    rcases hc with rfl | rfl <;> decide
  have hshown : c ≠ '\x00' := by
    rcases hc with rfl | rfl <;> decide
  cases htext : takesText outer with
  | true =>
      obtain ⟨b', hstep, h', -⟩ := h.takeChar hes htext hshown
      exact ⟨b', hstep, h'⟩
  | false =>
      subst hes
      rw [takesBlanks, htext, Bool.false_or] at htakes
      cases hrules : rulesIn ((e :: es).map Open.label) with
      | head =>
          obtain ⟨hpage, hmode, -⟩ := of_rulesIn hrules (by decide) (by decide)
          have hhead : b.mode = .inHead := h.mode_eq.trans (List.mem_singleton.mp hmode)
          refine ⟨_, ?_, h.insertChar c⟩
          rw [h.step_page hpage trivial]
          simp [modeStep, hhead, headStep, hfiller]
      | columns =>
          obtain ⟨hpage, hmode, -⟩ := of_rulesIn hrules (by decide) (by decide)
          have hcolumns : b.mode = .inColumnGroup := h.mode_eq.trans (List.mem_singleton.mp hmode)
          refine ⟨_, ?_, h.insertChar c⟩
          rw [h.step_page hpage trivial]
          simp [modeStep, hcolumns, columnGroupStep, hfiller]
      | text | options | drawing | parts | other =>
          rw [hrules] at htakes
          exact absurd htakes (by decide)

end Ready

end Builder

end Expectation.Html
