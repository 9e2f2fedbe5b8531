import Expectation.Proofs.Html.BodyRules

/-!
# Closing the innermost element

A closing tag looks for the element it closes among the open ones, and some tags close more than one
element.  Where the innermost element is the one that is meant, each rule closes just this element.

## Main results

* `Ready.bodyClosing`: the elements of running text.
* `Ready.closeForeign`: drawings, formulas and the elements in them.
-/

namespace Expectation.Html

namespace Builder

section Shown

variable {b : Builder} {i : Nat} {rest : List Nat} {e : Open} {es : List Open} {page : Frame}
  {tags : List String}

/-! ## What is innermost is found at once -/

theorem Shown.inScopeOf_top (h : b.Shown (i :: rest) (e :: es) page)
    (htop : Label.isAny tags e.label = true) (ends : Nat → Bool) :
    inScopeOf ends (b.isAny tags) b.opened = true := by
  have hany : b.isAny tags i = true := (h.isAny_top tags).trans htop
  rw [h.opened_eq]
  simp [inScopeOf, hany]

theorem Shown.afterFirst_top (h : b.Shown (i :: rest) (e :: es) page)
    (htop : Label.isAny tags e.label = true) : afterFirst (b.isAny tags) b.opened = rest := by
  have hany : b.isAny tags i = true := (h.isAny_top tags).trans htop
  rw [h.opened_eq]
  simp [afterFirst, hany]

theorem Shown.popThrough_eq (h : b.Shown (i :: rest) (e :: es) page)
    (htop : Label.isAny tags e.label = true) : b.popThrough tags = { b with opened := rest } := by
  rw [popThrough, h.afterFirst_top htop]

theorem Shown.closeElement_eq (h : b.Shown (i :: rest) (e :: es) page) {name : String}
    (htop : e.label = (.html, name)) : b.closeElement name = { b with opened := rest } := by
  have hkept : b.closeImplied name = b := by
    refine h.closeImplied_eq ?_
    rw [htop]
    simp [Label.isAny]
  rw [closeElement, hkept, h.popThrough_eq (by simp [htop, Label.isAny])]

/-- The innermost element is one that does not end without a closing tag. -/
theorem Shown.closeThrough_eq (h : b.Shown (i :: rest) (e :: es) page)
    (hends : Label.isAny impliedEndTags e.label = false) (htop : Label.isAny tags e.label = true) :
    (b.closeImplied "").popThrough tags = { b with opened := rest } := by
  have hfilter : impliedEndTags.filter (· != "") = impliedEndTags := by decide
  rw [h.closeImplied_eq (by rw [hfilter]; exact hends), h.popThrough_eq htop]

theorem Shown.closeInScope_eq (h : b.Shown (i :: rest) (e :: es) page) {name : String}
    (htop : e.label = (.html, name)) (hends : name ∉ impliedEndTags) :
    b.closeInScope name = { b with opened := rest } := by
  have hname : Label.isAny [name] e.label = true := by simp [htop, Label.isAny]
  have hscope : b.inScope [name] = true := h.inScopeOf_top hname _
  rw [closeInScope, if_pos hscope, h.closeThrough_eq (by simpa [htop, Label.isAny]) hname]

theorem Shown.closeHeading_eq (h : b.Shown (i :: rest) (e :: es) page) {name : String}
    (htop : e.label = (.html, name)) (hname : name ∈ headingTags) :
    b.closeHeading = { b with opened := rest } := by
  have hnames : ∀ name ∈ headingTags, name ∉ impliedEndTags := by decide
  have hends : name ∉ impliedEndTags := hnames name hname
  have hheading : Label.isAny headingTags e.label = true := by simpa [htop, Label.isAny]
  have hscope : b.inScope headingTags = true := h.inScopeOf_top hheading _
  rw [closeHeading, if_pos hscope, h.closeThrough_eq (by simpa [htop, Label.isAny]) hheading]

theorem Shown.closeAny_eq (h : b.Shown (i :: rest) (e :: es) page) {name : String}
    (htop : e.label = (.html, name)) : b.closeAny name = { b with opened := rest } := by
  have hname : Label.isAny [name] e.label = true := by simp [htop, Label.isAny]
  have hfound : inScopeOf (b.isAny specialTags) (b.isAny [name]) b.opened = true :=
    h.inScopeOf_top hname _
  rw [closeAny, hfound, h.afterFirst_top hname]
  rfl

end Shown

section Ready

variable {b : Builder} {mode : Mode} {i : Nat} {rest : List Nat} {e e' : Open} {es : List Open}
  {page : Frame} {outer : List Label} {tag : String}

/-! ## Elements that leave something to be remembered -/

/-- The innermost form is the one that is remembered. -/
theorem Ready.closeForm (h : b.Ready mode (i :: rest) (e :: e' :: es) page)
    (htop : e.label = (.html, "form"))
    (hno : ∀ l ∈ (e' :: es).map Open.label, Label.isAny ["form"] l = false) :
    b.closeForm.Ready mode rest (e'.add e.tree :: es) page := by
  have hform : b.form = some i := by
    rw [h.form_eq]
    simp [formOf, Open.opening, htop, Label.isAny]
  have hends : Label.isAny (impliedEndTags.filter (· != "")) e.label = false := by
    rw [htop]
    decide
  have hinner : ({ b with form := none } : Builder).Shown (i :: rest) (e :: e' :: es) page :=
    { h.toShown with }
  have hscope : inScopeOf (({ b with form := none } : Builder).endsScope []) (· == i) b.opened =
      true := by
    rw [h.opened_eq]
    simp [inScopeOf]
  have heq : b.closeForm = { b with form := none, opened := rest } := by
    rw [Builder.closeForm, h.hasOpenTemplate_eq, hform]
    simp only [Bool.false_eq_true, if_false, hscope, if_true, hinner.closeImplied_eq hends]
    simp [removeOpen, h.opened_eq]
  rw [heq]
  have hclosed := h.toShown.close
  exact { hclosed with
    mode_eq := h.mode_eq
    formatting_eq := h.formatting_eq.trans (remembered_cons (by rw [htop]; decide) _ _ _)
    form_eq := (formOf_eq_none hno).symm }

/-- The innermost formatting element is the latest that is remembered. -/
theorem Ready.closeFormatting (h : b.Ready mode (i :: rest) (e :: e' :: es) page) {name : String}
    (htop : e.label = (.html, name)) (hname : name ∈ formattingNames) :
    (b.closeFormatting name).Ready mode rest (e'.add e.tree :: es) page := by
  have hnames : ∀ name ∈ formattingNames, isSmallName name.toList = true ∧ name ∉ markerTags ∧
      name ≠ "form" := by decide
  obtain ⟨hsmall, hmarker, hform⟩ := hnames name hname
  have htag : e.tag = name := (Prod.mk.inj htop).2
  have hread : (readTag e.tag e.attributes).name = name := by
    rw [htag]
    exact readName_of_isSmallName hsmall
  have hformatting : b.formatting = .element i (readTag e.tag e.attributes) ::
      remembered (rest.zip ((e' :: es).map Open.opening)) := by
    rw [h.formatting_eq, List.map_cons, List.zip_cons_cons, Open.opening, htop, remembered]
    simp [Label.isAny, hmarker, hname]
  have hany : b.isAny [name] i = true := by simp [h.isAny_top, htop, Label.isAny]
  have hremembered : b.formattingTag? i = some (readTag e.tag e.attributes) := by
    simp [formattingTag?, hformatting]
  have hopened : b.opened.contains i = true := by simp [h.opened_eq]
  have hscope : inScopeOf (b.endsScope []) (· == i) b.opened = true := by
    rw [h.opened_eq]
    simp [inScopeOf]
  have hlatest : latest? name b.formatting = some (i, readTag e.tag e.attributes) := by
    simp [hformatting, latest?, hread]
  have heq : b.closeFormatting name = { b with
      opened := rest
      formatting := remembered (rest.zip ((e' :: es).map Open.opening)) } := by
    have hadopt : adopt 8 name b = ({ b with opened := rest } : Builder).forget i := by
      rw [adopt, hlatest]
      simp only [hopened, hscope, Bool.not_true, Bool.false_eq_true, if_false]
      simp [h.opened_eq, splitAtLast?]
    rw [Builder.closeFormatting, h.opened_eq]
    simp only [hany, hremembered, Option.isNone_some, Bool.and_false, Bool.false_eq_true, if_false]
    rw [hadopt]
    simp [forget, hformatting, eraseFirst, isEntryOf]
  rw [heq]
  exact { h.toShown.close with
    mode_eq := h.mode_eq
    formatting_eq := rfl
    form_eq := h.form_eq.trans (formOf_cons (htop ▸ by simpa [Label.isAny] using hform) _ _ _) }

/-- An element that formatting does not enter, and its marker. -/
theorem Ready.closeMarked (h : b.Ready mode (i :: rest) (e :: e' :: es) page) {name : String}
    (htop : e.label = (.html, name)) (hname : name ∈ markerTags) :
    ({ b with opened := rest } : Builder).clearFormatting.Ready mode rest
      (e'.add e.tree :: es) page := by
  have hnames : ∀ name ∈ markerTags, name ≠ "form" := by decide
  have hform : Label.isAny ["form"] e.label = false := by
    rw [htop]
    simpa [Label.isAny] using hnames name hname
  have hformatting : b.formatting =
      .marker :: remembered (rest.zip ((e' :: es).map Open.opening)) := by
    rw [h.formatting_eq, List.map_cons, List.zip_cons_cons, Open.opening, htop, remembered]
    simp [Label.isAny, hname]
  have hcleared : (b.formatting.dropWhile (· != .marker)).drop 1 =
      remembered (rest.zip ((e' :: es).map Open.opening)) := by simp [hformatting]
  exact { h.toShown.close with
    mode_eq := h.mode_eq
    formatting_eq := hcleared
    form_eq := h.form_eq.trans (formOf_cons hform _ _ _) }

/-! ## Elements of running text -/

/-- **A closing tag in the body closes the innermost element.** -/
theorem Ready.bodyClosing (h : b.Ready mode (i :: rest) (e :: e' :: es) page)
    (htop : e.label = (.html, tag)) (hes : (e' :: es).map Open.label = outer)
    (hopens : opensInText outer tag = true) (htag : tag ∉ ["table", "select", "math", "svg"]) :
    (b.bodyClosing tag).Ready mode rest (e'.add e.tree :: es) page := by
  -- the elements that leave nothing to be remembered
  have hquiet : tag ∉ markedTags → ({ b with opened := rest } : Builder).Ready mode rest
      (e'.add e.tree :: es) page := by
    intro hmarked
    refine h.close ?_
    rw [htop]
    simpa [Label.isAny] using hmarked
  have hname : Label.isAny [tag] e.label = true := by simp [htop, Label.isAny]
  have hscope : ∀ ends, inScopeOf ends (b.isAny [tag]) b.opened = true := h.inScopeOf_top hname
  have hany : tag ∉ ruledClosings → tag ∉ markedTags →
      (b.bodyClosing tag).Ready mode rest (e'.add e.tree :: es) page := by
    intro hruled hmarked
    rw [bodyClosing_any b hruled, h.closeAny_eq htop]
    exact hquiet hmarked
  subst hes
  cases opensInText_of hopens with
  | block hfamily _ =>
      have hnames : ∀ name ∈ paragraphEnds, name ∉ markedTags ∧
          (name = "p" ∨ name ∈ blockEndTags ∧ name ∉ impliedEndTags) := by decide
      obtain ⟨hmarked, rfl | ⟨hends, himplied⟩⟩ := hnames tag hfamily
      · have hbutton : b.inButtonScope ["p"] = true := hscope _
        rw [bodyClosing_paragraph, closeOrInsertParagraph, if_pos hbutton, h.closeElement_eq htop]
        exact hquiet hmarked
      · rw [bodyClosing_inScope b hends, h.closeInScope_eq htop himplied]
        exact hquiet hmarked
  | heading hfamily _ _ =>
      have hnames : ∀ name ∈ headingTags, name ∉ markedTags := by decide
      rw [bodyClosing_heading b hfamily, h.closeHeading_eq htop hfamily]
      exact hquiet (hnames tag hfamily)
  | listItem hfamily _ _ =>
      subst hfamily
      have hlist : b.inListScope ["li"] = true := hscope _
      rw [bodyClosing_listItem, if_pos hlist, h.closeElement_eq htop]
      exact hquiet (by decide)
  | term hfamily _ _ =>
      have hnames : ∀ name ∈ ["dd", "dt"], name ∉ markedTags := by decide
      have hterm : b.inScope [tag] = true := hscope _
      rw [bodyClosing_term b hfamily, if_pos hterm, h.closeElement_eq htop]
      exact hquiet (hnames tag hfamily)
  | form hfamily _ hno =>
      subst hfamily
      rw [bodyClosing_form]
      exact h.closeForm htop hno
  | table hfamily _ => exact absurd (by simp [hfamily]) htag
  | button hfamily _ =>
      subst hfamily
      rw [bodyClosing_inScope b (by decide), h.closeInScope_eq htop (by decide)]
      exact hquiet (by decide)
  | formatting hfamily _ =>
      rw [bodyClosing_formatting b hfamily]
      exact h.closeFormatting htop hfamily
  | holder hfamily =>
      have hnames : ∀ name ∈ holderTags, name ∉ impliedEndTags ∧ name ∈ markerTags := by decide
      obtain ⟨himplied, hmarker⟩ := hnames tag hfamily
      have hholder : b.inScope [tag] = true := hscope _
      rw [bodyClosing_holder b hfamily, if_pos hholder, h.closeInScope_eq htop himplied]
      exact h.closeMarked htop hmarker
  | select hfamily _ => exact absurd (by simp [hfamily]) htag
  | option hfamily _ =>
      have hnames : ∀ name ∈ ["optgroup", "option"], name ∉ ruledClosings ∧ name ∉ markedTags := by
        decide
      obtain ⟨hruled, hmarked⟩ := hnames tag hfamily
      exact hany hruled hmarked
  | ruby except hfamily _ =>
      have hnames : ∀ name ∈ ["rb", "rtc", "rp", "rt"],
          name ∉ ruledClosings ∧ name ∉ markedTags := by
        decide
      obtain ⟨hruled, hmarked⟩ := hnames tag (mem_of_ruby hfamily)
      exact hany hruled hmarked
  | root hfamily =>
      simp only [List.mem_cons, List.not_mem_nil, or_false] at hfamily htag
      exact absurd (.inr (.inr hfamily)) htag
  | plain _ hfamily _ =>
      have hruled : ∀ name ∈ ruledClosings ++ markedTags, name ∈ ruledTags := by decide
      have hplain : tag ∉ ruledClosings ++ markedTags := fun hmem => hfamily (hruled tag hmem)
      rw [List.mem_append, not_or] at hplain
      exact hany hplain.1 hplain.2

/-- The mode that a table or a selection is closed to. -/
theorem Ready.popThrough_resetMode (h : b.Ready mode (i :: rest) (e :: e' :: es) page)
    (htop : e.label = (.html, tag)) (hmarked : tag ∉ markedTags)
    (hmode : modeOf ((e' :: es).map Open.label) ≠ .afterHead) :
    (b.popThrough [tag]).resetMode.Ready (modeOf ((e' :: es).map Open.label)) rest
      (e'.add e.tree :: es) page := by
  have hname : Label.isAny [tag] e.label = true := by simp [htop, Label.isAny]
  have hclosed : ({ b with opened := rest } : Builder).Ready mode rest
      (e'.add e.tree :: es) page := by
    refine h.close ?_
    rw [htop]
    simpa [Label.isAny] using hmarked
  rw [h.popThrough_eq hname]
  exact hclosed.resetMode hmode

/-! ## Drawings and formulas -/

/-- **A drawing, a formula or an element in it is closed by its tag.** -/
theorem Ready.closeForeign (h : b.Ready mode (i :: rest) (e :: e' :: es) page)
    (hspace : e.space ≠ .html) (hsame : Text.sameName e.tag (readName e.tag) = true)
    (hname : readName e.tag ∉ pageClosings) :
    ∃ b', b.step (.closing (readName e.tag)) = .done b' ∧
      b'.Ready mode rest (e'.add e.tree :: es) page := by
  obtain ⟨j, ids, rfl⟩ : ∃ j ids, rest = j :: ids := by
    cases h.labels with
    | cons _ hrest => cases hrest with
      | @cons j _ ids _ _ _ => exact ⟨j, ids, rfl⟩
  have hlabel := h.label?_top
  have hforeign : b.isForeign (.closing (readName e.tag)) = true := by
    rw [isForeign, h.opened_eq]
    rw [Open.label] at hlabel
    cases hs : e.space with
    | html => exact absurd hs hspace
    | svg | math => simp [hlabel, hs]
  have hfound : b.findClosed (readName e.tag) true b.opened = .element (j :: ids) := by
    rw [h.opened_eq]
    simp [findClosed, hlabel, Open.label, hsame]
  have hstep : b.step (.closing (readName e.tag)) = .done { b with opened := j :: ids } := by
    rw [step, if_pos hforeign]
    simp [foreignStep, hname, hfound]
  exact ⟨_, hstep, h.close (Label.isAny_of_ne_html hspace markedTags e.tag)⟩

end Ready

end Builder

end Expectation.Html
