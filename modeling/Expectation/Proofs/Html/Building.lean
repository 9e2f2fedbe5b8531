import Expectation.Html.Construction
import Expectation.Proofs.Html.Attributes
import Expectation.Proofs.Html.Cells
import Expectation.Proofs.Html.Surroundings

/-!
# Reading a page step by step

Between two tokens of a page that is written as it is meant, a builder is in an orderly state: it
shows some open elements, and what else it remembers is told by them, so that nothing is left over
from the tokens before.  This is what `Ready` says, together with the mode.  Each operation on
builders is described by what it makes of such a state, so that nothing has to be known any more
about the cells of the tree.

Reading itself takes steps, and its fuel bounds them.  `Leads` hides the fuel: it says that reading
gets from one text to another, and from one builder to another, in few enough steps.

Some of what is read only shows with the next tag: the blanks in a table are put into it then, and a
line end behind the tag of a preformatted text is left out or not.  So a builder may stand for
another one as far as tags and comments are concerned, which is what `StandsFor` says.

## Main results

* `Shown.entered`, `Ready.close`, `Ready.insertChar`, `Ready.insertComment`: what operations do.
* `StandsFor.leads`: a step that takes a tag or a comment.
-/

namespace Expectation.Html

/-! ## Open elements -/

/-- An open element, with the trees in it so far, and the comments behind the element in it that is
open. -/
structure Open where
  space : Space := .html
  tag : String
  attributes : List Attribute
  kids : List Tree := []
  behind : List String := []

namespace Open

def label (e : Open) : Label := (e.space, e.tag)

def item (e : Open) : Item := .element e.space e.tag e.attributes

def frame (e : Open) : Frame := ⟨e.item, e.kids, e.behind⟩

/-- An element and the tag that opened it. -/
def opening (e : Open) : Label × Tag := (e.label, readTag e.tag e.attributes)

/-- The tree that an element is when it is closed. -/
def tree (e : Open) : Tree := .element e.tag e.attributes e.kids

/-- An element with one more tree in it, in the place of the open one. -/
def add (e : Open) (t : Tree) : Open :=
  { e with kids := e.kids ++ t :: e.behind.map .comment, behind := [] }

/-- An element with more text in it. -/
def addText (e : Open) (text : String) : Open :=
  { e with kids := Html.addText e.kids text, behind := [] }

end Open

/-- What the open elements of a page show, with the page around them. -/
def frames (es : List Open) (page : Frame) : List Frame := es.map Open.frame ++ [page]

namespace Builder

/-! ## What open elements leave to be remembered -/

/-- The formatting elements that are remembered, told by the open elements and their tags. -/
def remembered : List (Nat × Label × Tag) → List Formatting
  | [] => []
  | (i, l, tag) :: opened =>
    if Label.isAny markerTags l then .marker :: remembered opened
    else if Label.isAny formattingNames l then .element i tag :: remembered opened
    else remembered opened

/-- The form that is remembered. -/
def formOf (opened : List (Nat × Label × Tag)) : Option Nat :=
  (opened.find? fun x => Label.isAny ["form"] x.2.1).map (·.1)

/-- The elements that leave something to be remembered, or are apart from the page. -/
def markedTags : List String := formattingNames ++ markerTags ++ ["form", "template"]

theorem remembered_cons {l : Label} (h : Label.isAny (formattingNames ++ markerTags) l = false)
    (i : Nat) (tag : Tag) (opened : List (Nat × Label × Tag)) :
    remembered ((i, l, tag) :: opened) = remembered opened := by
  have h1 : Label.isAny formattingNames l = false :=
    Label.isAny_eq_false_of_subset (by decide) h
  have h2 : Label.isAny markerTags l = false := Label.isAny_eq_false_of_subset (by decide) h
  simp [remembered, h1, h2]

theorem formOf_cons {l : Label} (h : Label.isAny ["form"] l = false) (i : Nat) (tag : Tag)
    (opened : List (Nat × Label × Tag)) : formOf ((i, l, tag) :: opened) = formOf opened := by
  simp [formOf, h]

/-! ## Builders between two tokens -/

/-- A builder that shows some open elements, by their numbers, and is about to read markup. -/
structure Shown (b : Builder) (ids : List Nat) (es : List Open) (page : Frame) : Prop where
  opened_eq : b.opened = ids
  shows : b.store.Shows (ids ++ [Store.page]) (frames es page)
  fostering_eq : b.fostering = false
  textMode_eq : b.textMode = .markup
  skipMark_eq : b.skipMark = false
  noTemplate : ∀ e ∈ es, Label.isAny ["template"] e.label = false

/-- **A builder between two tokens**: its mode, the numbers of the open elements, and what it shows.
What it remembers is told by the open elements. -/
structure Ready (b : Builder) (mode : Mode) (ids : List Nat) (es : List Open) (page : Frame) : Prop
    extends b.Shown ids es page where
  mode_eq : b.mode = mode
  formatting_eq : b.formatting = remembered (ids.zip (es.map Open.opening))
  form_eq : b.form = formOf (ids.zip (es.map Open.opening))

section Shown

variable {b : Builder} {ids : List Nat} {e : Open} {es : List Open} {page : Frame}

/-- The open cells are the open elements. -/
theorem Shown.labels (h : b.Shown ids es page) :
    List.Forall₂ (fun i e => b.label? i = some e.label) ids es := by
  obtain ⟨f, fs, hfs⟩ : ∃ f fs, frames es page = f :: fs := by
    cases es <;> exact ⟨_, _, rfl⟩
  have hitems := (hfs ▸ h.shows).items
  rw [← hfs, frames] at hitems
  have hlength := hitems.length_eq
  simp only [List.length_append, List.length_map, List.length_singleton,
    Nat.add_right_cancel_iff] at hlength
  have hopen := List.forall₂_take_append _ _ _ hitems
  rw [List.length_map, ← hlength, List.take_left, List.forall₂_map_right_iff] at hopen
  refine hopen.imp fun i e ⟨c, hc, hitem⟩ => ?_
  obtain ⟨item, parent, children⟩ := c
  obtain rfl : item = .element e.space e.tag e.attributes := hitem
  simp [label?, hc, Open.label]

theorem isAny_of_label {i : Nat} {l : Label} (h : b.label? i = some l) (tags : List String) :
    b.isAny tags i = Label.isAny tags l := by
  obtain ⟨space, tag⟩ := l
  cases space <;> simp [isAny, h, Label.isAny]

theorem endsScope_of_label {i : Nat} {l : Label} (h : b.label? i = some l) (more : List String) :
    b.endsScope more i = Label.endsScope more l := by
  obtain ⟨space, tag⟩ := l
  rw [endsScope, isAny_of_label h, isAny_of_label h]
  cases space <;>
    simp [Label.endsScope, isMathText, isSvgHolder, Label.isMathText, Label.isSvgHolder, h]

/-- A scope is told by the open elements. -/
theorem inScopeOf_eq {α β : Type} {ends wanted : α → Bool} {ends' wanted' : β → Bool}
    {as : List α} {bs : List β}
    (h : List.Forall₂ (fun a b => ends a = ends' b ∧ wanted a = wanted' b) as bs) :
    inScopeOf ends wanted as = inScopeOf ends' wanted' bs := by
  induction h with
  | nil => rfl
  | cons hab _ ih => simp [inScopeOf, hab, ih]

theorem Shown.inScopeOf_eq (h : b.Shown ids es page) (more tags : List String) :
    inScopeOf (b.endsScope more) (b.isAny tags) b.opened =
      inScopeOf (Label.endsScope more) (Label.isAny tags) (es.map Open.label) := by
  rw [h.opened_eq]
  refine Builder.inScopeOf_eq (List.forall₂_map_right_iff.mpr (h.labels.imp fun i e hlabel => ?_))
  exact ⟨endsScope_of_label hlabel more, isAny_of_label hlabel tags⟩

theorem Shown.hasOpenTemplate_eq (h : b.Shown ids es page) : b.hasOpenTemplate = false := by
  rw [hasOpenTemplate, hasOpen, h.opened_eq, List.any_eq_false]
  intro i hi
  obtain ⟨e, he, hlabel⟩ := Json.exists_right_of_forall₂ h.labels hi
  rw [isAny_of_label hlabel, h.noTemplate e he]
  simp

/-! ### The innermost open element -/

theorem Shown.exists_top (h : b.Shown ids (e :: es) page) :
    ∃ i rest, ids = i :: rest ∧ b.label? i = some e.label := by
  cases h.labels with
  | @cons i _ rest _ hlabel => exact ⟨i, rest, rfl, hlabel⟩

theorem Shown.label?_top {i : Nat} {rest : List Nat} (h : b.Shown (i :: rest) (e :: es) page) :
    b.label? i = some e.label := by
  cases h.labels with
  | cons hlabel => exact hlabel

theorem Shown.isAny_top {i : Nat} {rest : List Nat} (h : b.Shown (i :: rest) (e :: es) page)
    (tags : List String) : b.isAny tags i = Label.isAny tags e.label :=
  isAny_of_label h.label?_top tags

theorem Shown.current_eq (h : b.Shown ids (e :: es) page) (tags : List String) :
    b.current tags = Label.isAny tags e.label := by
  obtain ⟨i, rest, rfl, hlabel⟩ := h.exists_top
  simp [current, h.opened_eq, isAny_of_label hlabel]

/-- Nothing stands behind the innermost open element's place for the next one. -/
theorem Shown.behind_eq (h : b.Shown ids (e :: es) page) : e.behind = [] := by
  obtain ⟨i, rest, rfl, -⟩ := h.exists_top
  exact h.shows.behind_eq

theorem Shown.add_eq (h : b.Shown ids (e :: es) page) (t : Tree) :
    e.add t = { e with kids := e.kids ++ [t] } := by
  simp [Open.add, h.behind_eq]

theorem Shown.addText_eq (h : b.Shown ids (e :: es) page) (text : String) :
    e.addText text = { e with kids := addText e.kids text } := by
  simp [Open.addText, h.behind_eq]

/-- What comes next goes into the innermost open element. -/
theorem Shown.place_eq {i : Nat} {rest : List Nat} (h : b.Shown (i :: rest) (e :: es) page) :
    b.place = .inside i := by
  have hany : b.isAny ["template"] i = false := by
    rw [h.isAny_top, h.noTemplate e List.mem_cons_self]
  simp [place, placeIn, inside, h.opened_eq, h.fostering_eq, hany]

/-! ### What operations do -/

/-- More text in the innermost open element. -/
theorem Shown.insertChar (h : b.Shown ids (e :: es) page) (c : Char) :
    (b.insertChar c).Shown ids (e.addText c.toString :: es) page := by
  obtain ⟨i, rest, rfl, -⟩ := h.exists_top
  have heq : b.insertChar c = { b with store := b.store.appendText i c.toString } := by
    simp [Builder.insertChar, h.place_eq]
  rw [heq]
  exact { h with
    shows := h.shows.appendText c.toString
    noTemplate := List.forall_mem_cons.mpr (List.forall_mem_cons.mp h.noTemplate) }

/-- A builder with a new element that is open. -/
def entered (b : Builder) (space : Space) (tag : String) (as : List Attribute) : Builder :=
  { b with
    store := b.store.attach (b.opened.head?.getD Store.page) (.element space tag as)
    opened := b.store.cells.size :: b.opened }

theorem Shown.insertAndOpen_eq (h : b.Shown ids (e :: es) page) {space : Space} {tag : String}
    (htag : Label.isAny ["template"] (space, tag) = false) (as : List Attribute) :
    b.insertAndOpen space tag as =
      (b.store.cells.size, b.entered space tag (Attribute.addMissing [] as)) := by
  obtain ⟨i, rest, rfl, -⟩ := h.exists_top
  have hkept : (decide (space = .html) && decide (tag = "template")) = false := by
    cases space with
    | html => simpa [Label.isAny] using htag
    | svg | math => rfl
  simp [insertAndOpen, createElement, hkept, h.place_eq, h.opened_eq, put, entered, Store.attach,
    Store.create]

theorem Shown.insert_eq (h : b.Shown ids (e :: es) page) {tag : String} {as : List Attribute}
    (has : Settled .html as) (hread : readName tag = tag) (htag : tag ≠ "template") :
    b.insert (readTag tag as) = b.entered .html tag as := by
  have hkept : Label.isAny ["template"] (.html, tag) = false := by simp [Label.isAny, htag]
  have hname : (readTag tag as).name = tag := hread
  rw [insert, has.plainAttributes_eq, hname, h.insertAndOpen_eq hkept,
    Attribute.addMissing_nil has.sorted]

/-- A new element in the innermost open one. -/
theorem Shown.entered (h : b.Shown ids (e :: es) page) {space : Space} {tag : String}
    (htag : Label.isAny ["template"] (space, tag) = false) (as : List Attribute) :
    (b.entered space tag as).Shown (b.store.cells.size :: ids)
      ({ space, tag, attributes := as } :: e :: es) page := by
  obtain ⟨i, rest, rfl, -⟩ := h.exists_top
  have hhead : b.opened.head?.getD Store.page = i := by rw [h.opened_eq]; rfl
  exact { h with
    opened_eq := congrArg _ h.opened_eq
    shows := by
      rw [Builder.entered, hhead]
      exact h.shows.attach _
    noTemplate := List.forall_mem_cons.mpr ⟨htag, h.noTemplate⟩ }

/-- The innermost open element is closed. -/
theorem Shown.close {i : Nat} {e' : Open} (h : b.Shown (i :: ids) (e :: e' :: es) page) :
    { b with opened := ids }.Shown ids (e'.add e.tree :: es) page := by
  obtain ⟨j, rest, rfl⟩ : ∃ j rest, ids = j :: rest := by
    cases h.labels with
    | cons _ hrest => cases hrest with
      | @cons j _ rest _ _ _ => exact ⟨j, rest, rfl⟩
  exact { h with
    opened_eq := rfl
    shows := h.shows.close rfl
    noTemplate := List.forall_mem_cons.mpr
      (List.forall_mem_cons.mp (List.forall_mem_cons.mp h.noTemplate).2) }

theorem Shown.pop_eq {i : Nat} {rest : List Nat} (h : b.Shown (i :: rest) es page) :
    b.pop = { b with opened := rest } := by
  simp [Builder.pop, h.opened_eq]

end Shown

section Ready

variable {b : Builder} {mode : Mode} {ids : List Nat} {e : Open} {es : List Open} {page : Frame}

/-! ### Operations that leave what is remembered as it is -/

theorem Ready.insertChar (h : b.Ready mode ids (e :: es) page) (c : Char) :
    (b.insertChar c).Ready mode ids (e.addText c.toString :: es) page := by
  obtain ⟨i, rest, rfl, -⟩ := h.exists_top
  have heq : b.insertChar c = { b with store := b.store.appendText i c.toString } := by
    simp [Builder.insertChar, h.place_eq]
  have hshown := h.toShown.insertChar c
  rw [heq] at hshown ⊢
  exact { hshown with mode_eq := h.mode_eq, formatting_eq := h.formatting_eq, form_eq := h.form_eq }

theorem Ready.keepBody (h : b.Ready mode ids es page) : b.keepBody.Ready mode ids es page :=
  { h with }

theorem Ready.withMode (h : b.Ready mode ids es page) (other : Mode) :
    (b.withMode other).Ready other ids es page := { h with mode_eq := rfl }

/-- A new element that leaves nothing to be remembered. -/
theorem Ready.entered (h : b.Ready mode ids (e :: es) page) {space : Space} {tag : String}
    (htag : Label.isAny markedTags (space, tag) = false) (as : List Attribute) :
    (b.entered space tag as).Ready mode (b.store.cells.size :: ids)
      ({ space, tag, attributes := as } :: e :: es) page :=
  { h.toShown.entered (Label.isAny_eq_false_of_subset (by decide) htag) as with
    mode_eq := h.mode_eq
    formatting_eq := h.formatting_eq.trans
      (remembered_cons (Label.isAny_eq_false_of_subset (by decide) htag) _ _ _).symm
    form_eq := h.form_eq.trans
      (formOf_cons (Label.isAny_eq_false_of_subset (by decide) htag) _ _ _).symm }

/-- Such an element is closed. -/
theorem Ready.close {i : Nat} {e' : Open} (h : b.Ready mode (i :: ids) (e :: e' :: es) page)
    (htag : Label.isAny markedTags e.label = false) :
    { b with opened := ids }.Ready mode ids (e'.add e.tree :: es) page :=
  { h.toShown.close with
    mode_eq := h.mode_eq
    formatting_eq := h.formatting_eq.trans
      (remembered_cons (Label.isAny_eq_false_of_subset (by decide) htag) _ _ _)
    form_eq := h.form_eq.trans
      (formOf_cons (Label.isAny_eq_false_of_subset (by decide) htag) _ _ _) }

/-- A new element without content. -/
theorem Ready.insertVoid (h : b.Ready mode ids (e :: es) page) {tag : String}
    {as : List Attribute} (has : Settled .html as) (hread : readName tag = tag)
    (htag : Label.isAny markedTags (.html, tag) = false) :
    (b.insertVoid (readTag tag as)).Ready mode ids (e.add (.element tag as []) :: es) page := by
  have htemplate : tag ≠ "template" := by
    rintro rfl
    exact absurd htag (by decide)
  have hentered := h.entered htag as
  rw [Builder.insertVoid, h.insert_eq has hread htemplate, hentered.pop_eq]
  exact hentered.close htag

/-- A comment in the innermost open element. -/
theorem Ready.insertComment (h : b.Ready mode ids (e :: es) page) (text : String) :
    (b.insertComment text).Ready mode ids (e.add (.comment text) :: es) page := by
  obtain ⟨i, rest, rfl, -⟩ := h.exists_top
  have heq : b.insertComment text = { b with store := b.store.attach i (.comment text) } := by
    simp [Builder.insertComment, commentIn, h.place_eq, put, Store.attach, Store.create]
  rw [heq]
  exact { h with
    shows := (h.shows.attach (.comment text)).close rfl
    noTemplate := List.forall_mem_cons.mpr (List.forall_mem_cons.mp h.noTemplate) }

/-! ### Outside of the root element -/

/-- A comment outside of all elements. -/
theorem Ready.commentOnPage (h : b.Ready mode [] [] page) (text : String) :
    (b.commentOnPage text).Ready mode [] [] (page.add (.comment text)) := by
  have heq : b.commentOnPage text =
      { b with store := b.store.attach Store.page (.comment text) } := by
    simp [Builder.commentOnPage, commentIn, put, Store.attach, Store.create]
  rw [heq]
  exact { h with shows := (h.shows.attach (.comment text)).close rfl }

/-- The declaration of the document type. -/
theorem Ready.placeDoctype (h : b.Ready .initial [] [] page) (name : String) :
    (b.placeDoctype { name := some name }).Ready .beforeRoot [] []
      (page.add (.doctype name)) := by
  have heq : b.placeDoctype { name := some name } = { b with
      store := b.store.attach Store.page (.doctype name)
      oldRules := Doctype.isOld { name := some name }
      mode := .beforeRoot } := by
    simp [Builder.placeDoctype, h.mode_eq, Store.attach, Store.create]
  rw [heq]
  exact { h with mode_eq := rfl, shows := (h.shows.attach (.doctype name)).close rfl }

/-- The root element. -/
theorem Ready.insertRoot (h : b.Ready mode [] [] page) {as : List Attribute}
    (has : Settled .html as) :
    (b.insertRoot (readTag "html" as)).Ready mode [b.store.cells.size]
      [{ tag := "html", attributes := as }] page := by
  have heq : b.insertRoot (readTag "html" as) = { b with
      store := b.store.attach Store.page (.element .html "html" as)
      opened := b.store.cells.size :: b.opened } := by
    simp [Builder.insertRoot, createElement, has.plainAttributes_eq,
      Attribute.addMissing_nil has.sorted, Store.attach, Store.create]
  rw [heq]
  exact { h with
    opened_eq := congrArg _ h.opened_eq
    shows := h.shows.attach _
    noTemplate := by
      intro e he
      obtain rfl := List.mem_singleton.mp he
      rfl }

/-! ### Modes -/

theorem selectMode_eq {ids : List Nat} {ls : List Label}
    (h : List.Forall₂ (fun i l => b.label? i = some l) ids ls)
    (hno : ∀ l ∈ ls, Label.isAny ["template"] l = false) :
    b.selectMode ids = selectModeOf ls := by
  induction h with
  | nil => rfl
  | @cons i l ids ls hlabel _ ih =>
      obtain ⟨hl, hls⟩ := List.forall_mem_cons.mp hno
      simp [selectMode, selectModeOf, isAny_of_label hlabel, hl, ih hls]

/-- Choices that agree on what comes next agree if they avoid something. -/
theorem else_congr {c : Bool} {x y y' avoided : Mode} (hne : (if c then x else y) ≠ avoided)
    (h : y ≠ avoided → y' = y) : (if c then x else y') = if c then x else y := by
  cases c with
  | true => rfl
  | false => exact h hne

/-- The mode for open elements is told by them behind the head. -/
theorem modeFor_eq {ids : List Nat} {ls : List Label}
    (h : List.Forall₂ (fun i l => b.label? i = some l) ids ls)
    (hno : ∀ l ∈ ls, Label.isAny ["template"] l = false) (hmode : modeOf ls ≠ .afterHead) :
    b.modeFor ids = modeOf ls := by
  induction h with
  | nil => rfl
  | @cons i l ids ls hlabel hrest ih =>
      obtain ⟨hl, hls⟩ := List.forall_mem_cons.mp hno
      have hempty : ids.isEmpty = ls.isEmpty := by cases hrest <;> rfl
      have hany : ∀ tags, b.isAny tags i = Label.isAny tags l := isAny_of_label hlabel
      rw [modeOf] at hmode ⊢
      rw [modeFor]
      simp only [hany, hempty, selectMode_eq hrest hls]
      iterate 7 refine else_congr hmode fun hmode => ?_
      rw [hl, if_neg Bool.false_ne_true]
      iterate 3 refine else_congr hmode fun hmode => ?_
      cases hroot : Label.isAny ["html"] l with
      | true => exact absurd (if_pos hroot) hmode
      | false =>
          rw [hroot, if_neg Bool.false_ne_true] at hmode
          exact ih hls hmode

/-- Going to the mode for the open elements. -/
theorem Ready.resetMode (h : b.Ready mode ids es page)
    (hmode : modeOf (es.map Open.label) ≠ .afterHead) :
    b.resetMode.Ready (modeOf (es.map Open.label)) ids es page := by
  have hlabels : List.Forall₂ (fun i l => b.label? i = some l) ids (es.map Open.label) :=
    List.forall₂_map_right_iff.mpr h.labels
  have hno : ∀ l ∈ es.map Open.label, Label.isAny ["template"] l = false :=
    List.forall_mem_map.mpr h.noTemplate
  have hfor : b.modeFor b.opened = modeOf (es.map Open.label) := by
    rw [h.opened_eq, modeFor_eq hlabels hno hmode]
  have hreset : b.resetMode = b.withMode (modeOf (es.map Open.label)) := by
    rw [Builder.resetMode, hfor, Builder.withMode]
  exact hreset ▸ h.withMode _

/-- No formatting element has to be opened again. -/
theorem Ready.reopenFormatting_eq (h : b.Ready mode ids es page) : b.reopenFormatting = b := by
  have hcut : ∀ xs : List (Nat × Label × Tag), (∀ x ∈ xs, x.1 ∈ b.opened) →
      (remembered xs).takeWhile b.isCut = [] := by
    intro xs hxs
    induction xs with
    | nil => rfl
    | cons x xs ih =>
        obtain ⟨i, l, tag⟩ := x
        obtain ⟨hi, hxs⟩ := List.forall_mem_cons.mp hxs
        rw [remembered]
        split_ifs
        · rw [List.takeWhile_cons_of_neg (by simp [isCut])]
        · rw [List.takeWhile_cons_of_neg (by simpa [isCut] using hi)]
        · exact ih hxs
  have hnone : b.formatting.takeWhile b.isCut = [] := by
    rw [h.formatting_eq]
    refine hcut _ fun x hx => ?_
    rw [h.opened_eq]
    exact (List.of_mem_zip hx).1
  simp [reopenFormatting, hnone, reopen]

end Ready

/-! ## Steps -/

/-- What the rules do with a token: those of drawings and formulas, or those of the mode. -/
def step (b : Builder) (token : Token) : Outcome :=
  if b.isForeign token then b.foreignStep modeStep token else b.modeStep token

theorem rounds_done {b b' : Builder} {token : Token} (h : b.step token = .done b') (n : Nat) :
    rounds (n + 1) b token = b' := by
  rw [step] at h
  simp [rounds, h]

theorem rounds_again {b b' : Builder} {token : Token} (h : b.step token = .again b') (n : Nat) :
    rounds (n + 1) b token = rounds n b' token := by
  rw [step] at h
  simp [rounds, h]

/-- A builder that takes a line end as it is. -/
def unskipped (b : Builder) : Builder := { b with skipNewline := false }

/-- A tag or a comment. -/
def isMarkup : Token → Bool
  | .opening _ | .closing _ | .comment _ => true
  | _ => false

theorem accept_markup (b : Builder) {token : Token} (h : isMarkup token = true) :
    b.accept token = rounds (4 * b.opened.length + 16) b.unskipped token := by
  cases token with
  | opening | closing | comment => rfl
  | char | doctype | fault | finish => simp [isMarkup] at h

/-- **Reading leads from one text to another**, in no more steps than there are characters
between them.  The mark that a script leaves for the step behind it is looked at in that step, so
there has to be one. -/
def Leads (b : Builder) (cs : List Char) (b' : Builder) (rest : List Char) : Prop :=
  ∃ n, n + rest.length ≤ cs.length ∧ ∀ fuel, read (fuel + 1 + n) b cs = read (fuel + 1) b' rest

theorem Leads.refl (b : Builder) (cs : List Char) : Leads b cs b cs :=
  ⟨0, by simp, fun _ => rfl⟩

theorem Leads.trans {b b' b'' : Builder} {cs cs' cs'' : List Char} (h : Leads b cs b' cs')
    (h' : Leads b' cs' b'' cs'') : Leads b cs b'' cs'' := by
  obtain ⟨n, hn, hread⟩ := h
  obtain ⟨m, hm, hread'⟩ := h'
  refine ⟨m + n, by omega, fun fuel => ?_⟩
  have hfuel : fuel + 1 + (m + n) = (fuel + m) + 1 + n := by omega
  have hfuel' : fuel + m + 1 = fuel + 1 + m := by omega
  rw [hfuel, hread, hfuel', hread']

/-- One step of reading that does not end the page. -/
theorem read_succ (b : Builder) (cs : List Char) {rest : List Char} (tokens : List Token)
    (hnext : Token.next b.textMode b.inForeign cs = (tokens, rest)) (hgoes : .finish ∉ tokens)
    (fuel : Nat) :
    let b' := tokens.foldl accept { b with textMode := .markup, skipMark := false }
    read (fuel + 1) b cs = read fuel b' (if b'.skipMark then withoutMark rest else rest) := by
  have hgoes : tokens.contains .finish = false := by simpa using hgoes
  rw [read, hnext]
  simp only [hgoes]
  rfl

/-- The mark for the next step means nothing beyond it. -/
theorem read_skipMark (b : Builder) (cs : List Char) (fuel : Nat) :
    read (fuel + 1) { b with skipMark := true } cs =
      read (fuel + 1) { b with skipMark := false } cs := rfl

/-- A step in markup that takes one token. -/
theorem leads_of_accept {b b' : Builder} (htextMode : b.textMode = .markup)
    (hskipMark : b.skipMark = false) {cs rest : List Char} {token : Token}
    (hnext : ∀ foreign, nextInMarkup foreign cs = ([token], rest))
    (hlength : rest.length < cs.length) (hgoes : token ≠ .finish) (haccept : b.accept token = b')
    (hmark : b'.skipMark = false) : Leads b cs b' rest := by
  refine ⟨1, by omega, fun fuel => ?_⟩
  have htokens : Token.next b.textMode b.inForeign cs = ([token], rest) := by
    rw [htextMode]
    exact hnext _
  have hreset : { b with textMode := .markup, skipMark := false } = b := by
    rw [← htextMode, ← hskipMark]
  have hread := read_succ b cs [token] htokens (by simpa using Ne.symm hgoes) (fuel + 1)
  simpa [hreset, haccept, hmark] using hread

/-- **A builder stands for another one** if it does with tags and comments what the rules do with
them there. -/
structure StandsFor (b b₀ : Builder) : Prop where
  textMode_eq : b.textMode = .markup
  skipMark_eq : b.skipMark = false
  accept_eq : ∀ {token b'}, isMarkup token = true → b₀.step token = .done b' →
    b.accept token = b'

/-- **A step that takes a tag or a comment.** -/
theorem StandsFor.leads {b b₀ b' : Builder} (h : b.StandsFor b₀) {cs rest : List Char}
    {token : Token} (hnext : ∀ foreign, nextInMarkup foreign cs = ([token], rest))
    (hlength : rest.length < cs.length) (htoken : isMarkup token = true)
    (hstep : b₀.step token = .done b') (hmark : b'.skipMark = false) : Leads b cs b' rest := by
  refine leads_of_accept h.textMode_eq h.skipMark_eq hnext hlength ?_
    (h.accept_eq htoken hstep) hmark
  rintro rfl
  simp [isMarkup] at htoken

section Ready

variable {b b' b'' : Builder} {mode mode' : Mode} {ids ids' : List Nat} {e : Open}
  {es es' : List Open} {page page' : Frame}

theorem Ready.unskipped (h : b.Ready mode ids es page) : b.unskipped.Ready mode ids es page :=
  { h with }

theorem Shown.standsFor (h : b.Shown ids es page) : b.StandsFor b.unskipped where
  textMode_eq := h.textMode_eq
  skipMark_eq := h.skipMark_eq
  accept_eq htoken hstep := by rw [accept_markup b htoken, rounds_done hstep]

/-- Between two tokens there is nothing to be reset. -/
theorem Shown.reset_eq (h : b.Shown ids es page) :
    { b with textMode := .markup, skipMark := false } = b := by
  rw [← h.textMode_eq, ← h.skipMark_eq]

/-! ### Whose rules apply -/

theorem isForeign_html {i : Nat} {rest : List Nat} {tag : String} (hopened : b.opened = i :: rest)
    (hlabel : b.label? i = some (.html, tag)) (token : Token) : b.isForeign token = false := by
  simp [isForeign, hopened, hlabel]

theorem step_html {i : Nat} {rest : List Nat} {tag : String} (hopened : b.opened = i :: rest)
    (hlabel : b.label? i = some (.html, tag)) (token : Token) :
    b.step token = b.modeStep token := by
  rw [step, isForeign_html hopened hlabel, if_neg Bool.false_ne_true]

/-- In an element of the page the rules of the page apply. -/
theorem Shown.step_html (h : b.Shown ids (e :: es) page) (hspace : e.space = .html)
    (token : Token) : b.step token = b.modeStep token := by
  obtain ⟨i, rest, rfl, hlabel⟩ := h.exists_top
  rw [Open.label, hspace] at hlabel
  exact Builder.step_html h.opened_eq hlabel token

/-- Outside of all elements the rules of the page apply. -/
theorem Shown.step_outside (h : b.Shown [] es page) (token : Token) :
    b.step token = b.modeStep token := by
  simp [step, isForeign, h.opened_eq]

end Ready

end Builder

end Expectation.Html
