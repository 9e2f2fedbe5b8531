import Expectation.Proofs.Html.Closings

/-!
# The parts of tables and selections

Each part of a table belongs into one of the others, and the mode goes along with them: it is told
by the innermost part.  An option stands in a selection or in a group of options.  A tag that comes
where its element belongs neither puts in a part that is missing nor ends another one.

## Main results

* `Ready.openInTable`, `Ready.closeInTable`: the parts of a table.
* `Ready.openInSelect`, `Ready.closeInSelect`: options and groups of options.
-/

namespace Expectation.Html

/-! ## Modes -/

/-- The element that is innermost. -/
theorem eq_cons_of_isInnermost {tags : List String} {outer : List Label}
    (h : isInnermost tags outer = true) :
    ∃ name rest, outer = (.html, name) :: rest ∧ name ∈ tags := by
  rcases outer with _ | ⟨⟨space, name⟩, rest⟩
  · simp [isInnermost] at h
  · cases space with
    | html => exact ⟨name, rest, rfl, by simpa [isInnermost, Label.isAny] using h⟩
    | svg | math => simp [isInnermost, Label.isAny] at h

theorem modeOf_rowGroup (outer : List Label) :
    ∀ name ∈ Builder.rowGroupTags, modeOf ((.html, name) :: outer) = .inTableBody := by
  simp only [Builder.rowGroupTags, List.forall_mem_cons]
  exact ⟨rfl, rfl, rfl, by simp⟩

theorem modeOf_cell (l : Label) (outer : List Label) :
    ∀ name ∈ Builder.cellTags, modeOf ((.html, name) :: l :: outer) = .inCell := by
  simp only [Builder.cellTags, List.forall_mem_cons]
  exact ⟨rfl, rfl, by simp⟩

namespace Builder

section Ready

variable {b : Builder} {mode : Mode} {i : Nat} {ids : List Nat} {e e' : Open} {es : List Open}
  {page : Frame} {outer : List Label} {tag : String} {as : List Attribute}

/-! ## The parts of a table -/

/-- The rules for the parts of a table do not mind the tags of other elements. -/
theorem modeStep_parts (b : Builder) (hmode : b.mode ∈ [.inTable, .inTableBody, .inRow])
    {token : Token} (htoken : match token with
      | .opening tag => tag.name ∉ partTags
      | .closing name => name ∉ "tr" :: partClosings
      | _ => True) : b.modeStep token = b.tableStep token := by
  simp only [List.mem_cons, List.not_mem_nil, or_false] at hmode
  rcases hmode with hmode | hmode | hmode
  · simp [modeStep, hmode]
  all_goals
    cases token <;> simp_all [modeStep, rowGroupStep, rowStep, partTags, partClosings]

/-- Elements of the head are placed in a table by the rules of the head. -/
theorem tableTag?_head (b : Builder) {tag : Tag} (h : tag.name ∈ ["style", "script", "template"]) :
    b.tableTag? tag = some (.done ((b.headTag? tag).getD b)) := by
  have hothers : ∀ name ∈ ["style", "script", "template"], name ∉ rowGroupTags ∧
      name ∉ cellTags := by decide
  obtain ⟨h1, h2⟩ := hothers _ h
  simp only [List.mem_cons, List.not_mem_nil, or_false] at h
  rcases h with h | h | h <;> rw [h] at h1 h2 <;> simp [tableTag?, h, h1, h2]

/-- Nothing is in the way of what is put into the innermost element. -/
theorem Shown.popTo_eq (h : b.Shown ids (e :: es) page) {tags : List String}
    (htop : Label.isAny tags e.label = true) : b.popTo tags = b := by
  obtain ⟨i, rest, rfl, hlabel⟩ := h.exists_top
  have hany : b.isAny tags i = true := (isAny_of_label hlabel tags).trans htop
  have hopened : b.opened.dropWhile (fun i => !b.isAny tags i) = b.opened := by
    rw [h.opened_eq, List.dropWhile_cons_of_neg (by simp [hany])]
  rw [popTo, hopened]

/-- A part that leaves nothing to be remembered but the mode. -/
theorem Ready.enterPart (h : b.Ready mode ids (e :: es) page) (has : Settled .html as)
    (hread : readName tag = tag) (hmarked : tag ∉ markedTags) (mode' : Mode) :
    ((b.insert (readTag tag as)).withMode mode').Ready mode' (b.store.cells.size :: ids)
      ({ tag, attributes := as } :: e :: es) page := by
  have hquiet : Label.isAny markedTags (.html, tag) = false := by simpa [Label.isAny] using hmarked
  have htemplate : tag ≠ "template" := by
    rintro rfl
    exact hmarked (by decide)
  rw [h.insert_eq has hread htemplate]
  exact (h.entered hquiet as).withMode mode'

/-- **The opening tag of a part of a table.** -/
theorem Ready.openInTable (h : b.Ready (modeOf outer) ids (e :: es) page)
    (hes : (e :: es).map Open.label = outer) (hopens : opensInTable outer tag = true)
    (has : Settled .html as) :
    ∃ b', b.modeStep (.opening (readTag tag as)) = .done b' ∧
      b'.Ready (modeOf ((.html, tag) :: outer)) (b.store.cells.size :: ids)
        ({ tag, attributes := as } :: e :: es) page := by
  simp only [opensInTable, Bool.or_eq_true, Bool.and_eq_true, beq_iff_eq, List.contains_eq_mem,
    decide_eq_true_eq] at hopens
  subst hes
  have hmode := h.mode_eq
  have hplace : ∀ {name : String} {tags : List String}, e.label = (.html, name) → name ∈ tags →
      b.popTo tags = b := by
    intro name tags hlabel hmem
    exact h.popTo_eq (by simpa [hlabel, Label.isAny] using hmem)
  rcases hopens with (⟨htop, htag⟩ | ⟨htop, rfl⟩) | ⟨htop, htag⟩
  all_goals
    obtain ⟨name, rest, hlabels, hname⟩ := eq_cons_of_isInnermost htop
    obtain ⟨hlabel, -⟩ := List.cons.inj hlabels
    rw [hlabels] at hmode ⊢
  · -- in the table itself
    obtain rfl := List.mem_singleton.mp hname
    have htable : b.mode = .inTable := hmode
    have hscope : b.popTo tableScopeTags = b := hplace hlabel (by decide)
    rcases List.mem_cons.mp htag with rfl | htag
    · let marked : Builder := { b with formatting := .marker :: b.formatting }
      have hmarked : marked.Shown ids (e :: es) page := { h.toShown with }
      have hstep : b.modeStep (.opening (readTag "caption" as)) =
          .done ((marked.insert (readTag "caption" as)).withMode .inCaption) := by
        have hread : (readTag "caption" as).name = "caption" :=
          (by decide : readName "caption" = "caption")
        simp [modeStep, htable, tableStep, tableTag?, hread, hscope, marked]
      refine ⟨_, hstep, ?_⟩
      rw [hmarked.insert_eq has (by decide) (by decide)]
      exact (h.enterMarked (by decide) as).withMode .inCaption
    · have hnames : ∀ name ∈ "colgroup" :: rowGroupTags, readName name = name ∧
          name ∉ markedTags ∧ name ≠ "caption" ∧ name ≠ "col" := by decide
      obtain ⟨hread, hmarked, hcaption, hcol⟩ := hnames tag htag
      have hread' : (readTag tag as).name = tag := hread
      rcases List.mem_cons.mp htag with rfl | hgroup
      · refine ⟨_, ?_, h.enterPart has hread hmarked .inColumnGroup⟩
        simp [modeStep, htable, tableStep, tableTag?, hread', hscope]
      · have hcolgroup : tag ≠ "colgroup" := by
          rintro rfl
          exact absurd hgroup (by decide)
        rw [modeOf_rowGroup _ tag hgroup]
        refine ⟨_, ?_, h.enterPart has hread hmarked .inTableBody⟩
        simp [modeStep, htable, tableStep, tableTag?, hread', hscope, hcaption, hcol, hcolgroup,
          hgroup]
  · -- in a row group
    have hgroup : b.mode = .inTableBody := hmode.trans (modeOf_rowGroup rest name hname)
    have hscope : b.popTo rowGroupPlaceTags = b := hplace hlabel (List.mem_append_left _ hname)
    refine ⟨_, ?_, h.enterPart has (by decide) (by decide) .inRow⟩
    have hread : (readTag "tr" as).name = "tr" := (by decide : readName "tr" = "tr")
    simp [modeStep, hgroup, rowGroupStep, hread, hscope]
  · -- in a row
    obtain rfl := List.mem_singleton.mp hname
    have hrow : b.mode = .inRow := hmode
    have hscope : b.popTo rowPlaceTags = b := hplace hlabel (by decide)
    have hnames : ∀ name ∈ cellTags, readName name = name ∧ name ≠ "template" ∧
        name ∈ markerTags := by decide
    obtain ⟨hread, htemplate, hmarker⟩ := hnames tag htag
    have hread' : (readTag tag as).name = tag := hread
    rw [modeOf_cell _ _ tag htag]
    refine ⟨_, ?_, (h.enterMarked hmarker as).withMode .inCell⟩
    rw [modeStep, hrow, rowStep]
    simp only [hread', hscope, List.contains_eq_mem, htag, decide_true, if_true,
      h.insert_eq has hread htemplate]
    rfl

/-- **The closing tag of a part of a table.** -/
theorem Ready.closeInTable
    (h : b.Ready (modeOf ((.html, tag) :: outer)) (i :: ids) (e :: e' :: es) page)
    (htop : e.label = (.html, tag)) (hes : (e' :: es).map Open.label = outer)
    (hopens : opensInTable outer tag = true) :
    ∃ b', b.modeStep (.closing tag) = .done b' ∧
      b'.Ready (modeOf outer) ids (e'.add e.tree :: es) page := by
  simp only [opensInTable, Bool.or_eq_true, Bool.and_eq_true, beq_iff_eq, List.contains_eq_mem,
    decide_eq_true_eq] at hopens
  subst hes
  have hmode := h.mode_eq
  have hname : Label.isAny [tag] e.label = true := by simp [htop, Label.isAny]
  have hscope : b.inTableScope [tag] = true := h.inScopeOf_top hname _
  have hcurrent : b.current [tag] = true := (h.current_eq [tag]).trans hname
  -- the parts that leave nothing to be remembered but the mode
  have hpop : tag ∉ markedTags → ∀ mode', (b.pop.withMode mode').Ready mode' ids
      (e'.add e.tree :: es) page := by
    intro hmarked mode'
    rw [h.pop_eq]
    refine (h.close ?_).withMode mode'
    rw [htop]
    simpa [Label.isAny] using hmarked
  have hplace : ∀ {tags : List String}, tag ∈ tags → b.popTo tags = b := by
    intro tags hmem
    exact h.popTo_eq (by simpa [htop, Label.isAny] using hmem)
  have hclose : tag ∉ impliedEndTags → (b.closeImplied "").popThrough [tag] =
      { b with opened := ids } := by
    intro himplied
    exact h.closeThrough_eq (by simpa [htop, Label.isAny] using himplied) hname
  rcases hopens with (⟨houter, htag⟩ | ⟨houter, rfl⟩) | ⟨houter, htag⟩
  all_goals
    obtain ⟨name, rest, hlabels, hmem⟩ := eq_cons_of_isInnermost houter
    rw [hlabels] at hmode ⊢
  · obtain rfl := List.mem_singleton.mp hmem
    rcases List.mem_cons.mp htag with rfl | htag
    · have hcaption : b.mode = .inCaption := hmode
      refine ⟨_, ?_, (h.closeMarked htop (by decide)).withMode .inTable⟩
      simp [modeStep, hcaption, captionStep, hscope, closeCaption, hclose (by decide)]
    rcases List.mem_cons.mp htag with rfl | hgroup
    · have hcolgroup : b.mode = .inColumnGroup := hmode
      refine ⟨_, ?_, hpop (by decide) .inTable⟩
      simp [modeStep, hcolgroup, columnGroupStep, hcurrent]
    · have hgroups : ∀ name ∈ rowGroupTags, name ∉ markedTags := by decide
      have hrowGroup : b.mode = .inTableBody := hmode.trans (modeOf_rowGroup _ tag hgroup)
      have hplaced : b.popTo rowGroupPlaceTags = b := hplace (List.mem_append_left _ hgroup)
      refine ⟨_, ?_, hpop (hgroups tag hgroup) .inTable⟩
      simp [modeStep, hrowGroup, rowGroupStep, hgroup, hscope, hplaced]
  · have hrow : b.mode = .inRow := hmode
    rw [modeOf_rowGroup rest name hmem]
    refine ⟨_, ?_, hpop (by decide) .inTableBody⟩
    simp [modeStep, hrow, rowStep, hscope, hplace (by decide : "tr" ∈ rowPlaceTags)]
  · obtain rfl := List.mem_singleton.mp hmem
    have hnames : ∀ name ∈ cellTags, name ∉ impliedEndTags ∧ name ∈ markerTags := by decide
    obtain ⟨himplied, hmarker⟩ := hnames tag htag
    have hcell : b.mode = .inCell := hmode.trans (modeOf_cell _ _ tag htag)
    refine ⟨_, ?_, (h.closeMarked htop hmarker).withMode .inRow⟩
    simp [modeStep, hcell, cellStep, htag, hscope, hclose himplied]

/-! ## Options -/

/-- The rules for options do not mind tags other than those of the parts of a table. -/
theorem modeStep_selection (b : Builder) (hmode : b.mode ∈ [.inSelect, .inSelectInTable])
    {token : Token} (htoken : match token with
      | .opening tag => tag.name ∉ tablePartNames
      | .closing name => name ∉ tablePartNames
      | _ => True) : b.modeStep token = b.selectStep token := by
  simp only [List.mem_cons, List.not_mem_nil, or_false] at hmode
  rcases hmode with hmode | hmode
  · simp [modeStep, hmode]
  · cases token <;> simp_all [modeStep, selectInTableStep]

theorem Shown.closeOption_eq (h : b.Shown ids (e :: es) page)
    (hno : isInnermost ["option"] ((e :: es).map Open.label) = false) : b.closeOption = b := by
  have hcurrent : b.current ["option"] = false := (h.current_eq ["option"]).trans hno
  rw [closeOption, hcurrent, if_neg Bool.false_ne_true]

theorem Shown.closeOptions_eq (h : b.Shown ids (e :: es) page)
    (hno : isInnermost ["option", "optgroup"] ((e :: es).map Open.label) = false) :
    b.closeOptions = b := by
  have hany : Label.isAny ["option", "optgroup"] e.label = false := hno
  have hoption : isInnermost ["option"] ((e :: es).map Open.label) = false :=
    Label.isAny_eq_false_of_subset (by decide) hany
  have hgroup : b.current ["optgroup"] = false :=
    (h.current_eq ["optgroup"]).trans (Label.isAny_eq_false_of_subset (by decide) hany)
  rw [closeOptions, h.closeOption_eq hoption]
  simp only [hgroup, Bool.false_eq_true, if_false]

/-- **The opening tag of an option or a group of options.** -/
theorem Ready.openInSelect (h : b.Ready (modeOf outer) ids (e :: es) page)
    (hes : (e :: es).map Open.label = outer) (hmode : modeOf outer ∈ [.inSelect, .inSelectInTable])
    (hopens : opensInSelect outer tag = true) (has : Settled .html as) :
    ∃ b', b.modeStep (.opening (readTag tag as)) = .done b' ∧
      b'.Ready (modeOf ((.html, tag) :: outer)) (b.store.cells.size :: ids)
        ({ tag, attributes := as } :: e :: es) page := by
  have hnames : ∀ name ∈ ["option", "optgroup"], isSmallName name.toList = true ∧
      name ∉ markedTags ++ modeTags ∧ name ∉ tablePartNames := by decide
  obtain ⟨hsmall, hquiet, hpart⟩ := hnames tag (mem_of_opensInSelect hopens)
  have hread : (readTag tag as).name = tag := readName_of_isSmallName hsmall
  refine ⟨_, ?_, h.enter has hsmall hquiet⟩
  rw [modeStep_selection b (h.mode_eq ▸ hmode) (by simpa [hread] using hpart)]
  subst hes
  simp only [opensInSelect, Bool.or_eq_true, Bool.and_eq_true, beq_iff_eq,
    Bool.not_eq_true'] at hopens
  rcases hopens with ⟨rfl, hno⟩ | ⟨rfl, hno⟩
  · simp [selectStep, hread, h.closeOption_eq hno]
  · simp [selectStep, hread, h.closeOptions_eq hno]

/-- **The closing tag of an option or a group of options.** -/
theorem Ready.closeInSelect
    (h : b.Ready (modeOf ((.html, tag) :: outer)) (i :: ids) (e :: e' :: es) page)
    (htop : e.label = (.html, tag)) (hmode : modeOf outer ∈ [.inSelect, .inSelectInTable])
    (htag : tag ∈ ["option", "optgroup"]) :
    ∃ b', b.modeStep (.closing tag) = .done b' ∧
      b'.Ready (modeOf outer) ids (e'.add e.tree :: es) page := by
  have hnames : ∀ name ∈ ["option", "optgroup"], name ∉ markedTags ∧ name ∉ modeTags ∧
      name ∉ tablePartNames := by decide
  obtain ⟨hmarked, hmodes, hpart⟩ := hnames tag htag
  have hsame : modeOf ((.html, tag) :: outer) = modeOf outer :=
    modeOf_cons (by simpa [Label.isAny] using hmodes) outer
  rw [hsame] at h
  have hclosed := h.close (by rw [htop]; simpa [Label.isAny] using hmarked)
  rw [← h.pop_eq] at hclosed
  have hcurrent : ∀ name, b.current [name] = decide (tag = name) := by
    intro name
    rw [h.current_eq, htop]
    simp [Label.isAny]
  refine ⟨_, ?_, hclosed⟩
  rw [modeStep_selection b (h.mode_eq ▸ hmode) (by simpa using hpart)]
  simp only [List.mem_cons, List.not_mem_nil, or_false] at htag
  rcases htag with rfl | rfl
  · simp [selectStep, closeOption, hcurrent]
  · simp [selectStep, hcurrent]

end Ready

end Builder

end Expectation.Html
