import Expectation.Proofs.Html.Settled

/-!
# Whole pages that are read as they are written

Around the body of a page the rules change with every part: comments and the declaration come
first, then the root element with the head and the body, and behind both of them there may be
comments again.  The page that is written has all parts, so none has to be put in, and each tag
moves on to the rules for the next part.  Blanks in front of the head mean nothing; behind it they
are text, and those behind the body are put into it.  Neither the body nor the root element is
closed before the page ends, so the comments behind them are kept behind open elements.

## Main results

* `Tree.settledPage`: a test for pages that are read as they are written.
* `Ready.readPage`: they are.
-/

namespace Expectation.Html

/-! ## What is the same up to layout -/

theorem bareList_middle (ts us : List Tree) {t : Tree} (ht : t.isBlankText = false) :
    Tree.bareList (ts ++ t :: us) = Tree.bareList ts ++ t.bare :: Tree.bareList us := by
  simp [Tree.bareList, ht]

theorem bareList_comments (cs : List String) :
    Tree.bareList (cs.map .comment) = cs.map .comment := by
  induction cs with
  | nil => rfl
  | cons c cs ih => simp [Tree.bareList, Tree.isBlankText, Tree.bare, ih]

namespace Open

theorem bare_tree_of_spaced {e : Open} {kids : List Tree} (h : Spaced e.kids kids) :
    ({ e with kids } : Open).tree.bare = e.tree.bare := by
  rw [tree, tree, Tree.bare, Tree.bare, h.bareList_eq]

/-- Up to layout it does not matter which of two trees is added. -/
theorem bare_add {t t' : Tree} (ht : t.isBlankText = false) (ht' : t'.isBlankText = false)
    (h : t'.bare = t.bare) (e : Open) : (e.add t').tree.bare = (e.add t).tree.bare := by
  simp only [tree, add, Tree.bare, bareList_middle _ _ ht, bareList_middle _ _ ht', h]

end Open

/-! ## The parts of a page -/

namespace Tree

/-- Whether trees are comments and blanks up to an element of a tag, which has settled attributes
and passes a test, and so do the trees behind it. -/
def settledUpTo (name : String) (inside behind : List Tree → Bool) : List Tree → Bool
  | .comment s :: ts =>
    decide (Enclosable (Text.trim s.toList)) && settledUpTo name inside behind ts
  | .text s :: ts => Text.allBlank s && settledUpTo name inside behind ts
  | .element tag as us :: ts =>
    tag == name && settledAttributes .html as && inside us && behind ts
  | _ => false

/-- Whether trees are nothing but comments and blanks. -/
def settledBehind : List Tree → Bool
  | [] => true
  | .comment s :: ts => decide (Enclosable (Text.trim s.toList)) && settledBehind ts
  | .text s :: ts => Text.allBlank s && settledBehind ts
  | _ => false

/-- Whether the trees behind the head are read as they are written. -/
def settledRest : List Tree → Bool :=
  settledUpTo "body" (settleIn [(.html, "body"), (.html, "html")] false) settledBehind

/-- Whether the trees in the root element are. -/
def settledRoot : List Tree → Bool :=
  settledUpTo "head" (settleIn [(.html, "head"), (.html, "html")] false) settledRest

/-- **Whether a page is read as it is written**: comments, one declaration unless there has been
one, the root element, and comments again.

A few pages that are read as they are written do not pass: sets of frames, a declaration without a
name, an attribute whose name begins with an equals sign, a table in a paragraph, which only stays
there by old rules, a form in a table that holds nothing, which is remembered though it is not open,
a fourth formatting element of one name inside the others, elements without content that are written
with closing tags, a drawing at once in an annotation of a formula, and a style or a script of a
drawing whose text has to be escaped. -/
def settledPage (declared : Bool) : List Tree → Bool
  | .comment s :: ts => decide (Enclosable (Text.trim s.toList)) && settledPage declared ts
  | .doctype name :: ts =>
    !declared && !name.toList.isEmpty && name.toList.all isNameChar && settledPage true ts
  | .element tag as ts :: us =>
    tag == "html" && settledAttributes .html as && settledRoot ts && settledBehind us
  | _ => false

/-- The root element has lines of its own. -/
theorem between_of_settledRoot {ts : List Tree} (h : settledRoot ts = true)
    (several : List Char) : between false ts several = several := by
  rw [settledRoot] at h
  induction ts with
  | nil => simp [settledUpTo] at h
  | cons t ts ih =>
      cases t with
      | element => simp [between, isBlankText]
      | text s =>
          simp only [settledUpTo, Bool.and_eq_true] at h
          simpa [between, isBlankText, h.1] using ih h.2
      | comment => simp [between, isBlankText]
      | doctype => simp [between, isBlankText]

end Tree

namespace Builder

section Ready

variable {b : Builder} {mode : Mode} {i j : Nat} {ids : List Nat} {e body html : Open}
  {es : List Open} {page : Frame} {as : List Attribute} {ts : List Tree} {ms : List Char}

theorem isFiller_of_margin {c : Char} (h : c = ' ' ∨ c = '\n') : isFiller c = true := by
  rcases h with rfl | rfl <;> decide

/-! ## In front of the head -/

/-- In front of the head the layout means nothing. -/
theorem Ready.skipMargin (hms : Margin ms)
    (hstep : ∀ {b : Builder} {c : Char}, b.Ready mode ids es page → (c = ' ' ∨ c = '\n') →
      b.step (.char c) = .done b)
    (h : b.Ready mode ids es page) (rest : List Char) :
    ∃ b', Leads b (ms ++ rest) b' rest ∧ b'.Ready mode ids es page := by
  induction ms generalizing b with
  | nil => exact ⟨b, .refl b rest, h⟩
  | cons c ms ih =>
      obtain ⟨hc, hrest⟩ := List.forall_mem_cons.mp hms
      have haccept : b.accept (.char c) = b.unskipped := by
        by_cases hskip : b.skipNewline = false ∨ c ≠ '\n'
        · rw [accept_char hskip, rounds_done (hstep h.unskipped hc)]
        · obtain ⟨hskips, rfl⟩ : b.skipNewline = true ∧ c = '\n' := by simpa using hskip
          exact accept_skipped hskips
      have hfirst := leads_of_accept h.textMode_eq h.skipMark_eq
        (fun foreign => nextInMarkup_margin hc foreign (ms ++ rest)) (by simp) (by simp) haccept
        h.unskipped.skipMark_eq
      obtain ⟨b', hleads, h'⟩ := ih hrest h.unskipped
      exact ⟨b', hfirst.trans hleads, h'⟩

theorem Ready.step_blank (h : b.Ready mode [] [] page)
    (hmode : mode = .initial ∨ mode = .beforeRoot) {c : Char} (hc : c = ' ' ∨ c = '\n') :
    b.step (.char c) = .done b := by
  rw [h.step_outside]
  rcases hmode with rfl | rfl
  · simp [modeStep, h.mode_eq, initialStep, isFiller_of_margin hc]
  · simp [modeStep, h.mode_eq, beforeRootStep, isFiller_of_margin hc]

theorem Ready.step_blankInRoot (h : b.Ready .beforeHead ids [e] page) (hspace : e.space = .html)
    {c : Char} (hc : c = ' ' ∨ c = '\n') : b.step (.char c) = .done b := by
  rw [h.step_html hspace]
  simp [modeStep, h.mode_eq, beforeHeadStep, isFiller_of_margin hc]

/-- A comment outside of all elements. -/
theorem Ready.readPageComment (h : b.Ready mode [] [] page)
    (hmode : mode = .initial ∨ mode = .beforeRoot) {s : String}
    (hs : Enclosable (Text.trim s.toList)) (rest : List Char) :
    ∃ b', Leads b (commentText s ++ rest) b' rest ∧
      b'.Ready mode [] [] (page.add (.comment (Node.paddedText s))) := by
  have hstep : b.unskipped.step (.comment (Node.paddedText s)) =
      .done (b.unskipped.commentOnPage (Node.paddedText s)) := by
    rw [h.unskipped.step_outside]
    rcases hmode with rfl | rfl <;> simp only [modeStep, h.unskipped.mode_eq] <;> rfl
  have h' := h.unskipped.commentOnPage (Node.paddedText s)
  exact ⟨_, h.standsFor.leads (fun foreign => nextInMarkup_comment hs foreign rest)
    (by simp [commentText]; omega) rfl hstep h'.skipMark_eq, h'⟩

/-- The declaration of the document type. -/
theorem Ready.readDoctype (h : b.Ready .initial [] [] page) {name : String}
    (hne : name.toList ≠ []) (hname : name.toList.all isNameChar = true) (rest : List Char) :
    ∃ b', Leads b (doctypeText name ++ rest) b' rest ∧
      b'.Ready .beforeRoot [] [] (page.add (.doctype name)) := by
  have haccept : b.accept (.doctype { name := some name }) =
      b.unskipped.placeDoctype { name := some name } := rfl
  have h' := h.unskipped.placeDoctype name
  exact ⟨_, leads_of_accept h.textMode_eq h.skipMark_eq
    (fun foreign => nextInMarkup_doctype hne hname foreign rest) (by simp [doctypeText]; omega)
    (by simp) haccept h'.skipMark_eq, h'⟩

/-- The root element. -/
theorem Ready.readRoot (h : b.Ready mode [] [] page)
    (hmode : mode = .initial ∨ mode = .beforeRoot) (has : Settled .html as) (rest : List Char) :
    ∃ b' i, Leads b (openingText "html" as ++ rest) b' rest ∧
      b'.Ready .beforeHead [i] [{ tag := "html", attributes := as }] page := by
  have hname : (readTag "html" as).name = "html" := (by decide : readName "html" = "html")
  have hroot : ∀ {b : Builder}, b.Ready .beforeRoot [] [] page →
      b.step (.opening (readTag "html" as)) =
        .done ((b.insertRoot (readTag "html" as)).withMode .beforeHead) := by
    intro b h
    rw [h.step_outside]
    simp [modeStep, h.mode_eq, beforeRootStep, hname]
  obtain ⟨b', i, haccept, h'⟩ : ∃ b' i, b.accept (.opening (readTag "html" as)) = b' ∧
      b'.Ready .beforeHead [i] [{ tag := "html", attributes := as }] page := by
    rcases hmode with rfl | rfl
    · -- without a declaration the page is one for old rules
      have hold : { b.unskipped with oldRules := true, mode := .beforeRoot }.Ready .beforeRoot [] []
          page := { h with mode_eq := rfl }
      have hstep : b.unskipped.step (.opening (readTag "html" as)) =
          .again { b.unskipped with oldRules := true, mode := .beforeRoot } := by
        rw [h.unskipped.step_outside]
        simp [modeStep, h.unskipped.mode_eq, initialStep]
      have haccept := (accept_markup b rfl).trans
        ((rounds_again hstep _).trans (rounds_done (hroot hold) _))
      exact ⟨_, _, haccept, (hold.insertRoot has).withMode _⟩
    · have haccept := (accept_markup b rfl).trans (rounds_done (hroot h.unskipped) _)
      exact ⟨_, _, haccept, (h.unskipped.insertRoot has).withMode _⟩
  exact ⟨b', i, leads_of_accept h.textMode_eq h.skipMark_eq
    (fun foreign => nextInMarkup_opening (by decide) has.legible foreign rest)
    (length_lt_opening ..) (by simp) haccept h'.skipMark_eq, h'⟩

/-! ## The head -/

/-- The tag of the head. -/
theorem Ready.openHead (h : b.Ready .beforeHead ids (e :: es) page) (has : Settled .html as) :
    (b.openHead (readTag "head" as)).Ready .inHead (b.store.cells.size :: ids)
      ({ tag := "head", attributes := as } :: e :: es) page := by
  have hname : (readTag "head" as).name = "head" := (by decide : readName "head" = "head")
  have hentered := h.entered (by decide : Label.isAny markedTags (.html, "head") = false) as
  rw [Builder.openHead, hname, has.plainAttributes_eq, h.insertAndOpen_eq (by decide),
    Attribute.addMissing_nil has.sorted]
  exact { hentered with mode_eq := rfl }

/-- **The head is read as it is written.** -/
theorem Ready.readHead (h : b.Ready .beforeHead [j] [e] page) (he : e.label = (.html, "html"))
    (has : settledAttributes .html as = true)
    (hts : Tree.settleIn [(.html, "head"), (.html, "html")] false ts = true) (rest : List Char) :
    ∃ b' t, Leads b ('\n' :: (Tree.element "head" as ts).line 1 false ++ rest) b' rest ∧
      b'.Ready .afterHead [j] [e.add t] page ∧
      t.bare = .element "head" (Attribute.plain as) (Tree.bareList (Tree.paddedList ts)) := by
  have hspace : e.space = .html := congrArg Prod.fst he
  have hplain := settled_plain has
  let content := Tree.between false ts (Tree.lines 2 false ts ++ '\n' :: margin 1)
  have hinside := fills_between hts 1 (adds_lines _ ts hts 2)
  -- the head is opened
  obtain ⟨b₁, hskip, h₁⟩ := h.skipMargin (margin_line 1) (fun h hc => h.step_blankInRoot hspace hc)
    (openingText "head" (Attribute.plain as) ++ (content ++ (closingText "head" ++ rest)))
  have hopened := h₁.unskipped.openHead hplain
  have hstep : b₁.unskipped.step (.opening (readTag "head" (Attribute.plain as))) =
      .done (b₁.unskipped.openHead (readTag "head" (Attribute.plain as))) := by
    have hname : (readTag "head" (Attribute.plain as)).name = "head" :=
      (by decide : readName "head" = "head")
    rw [h₁.unskipped.step_html hspace]
    simp [modeStep, h₁.unskipped.mode_eq, beforeHeadStep, hname]
  have hfirst := h₁.standsFor.leads (fun foreign => nextInMarkup_opening (by decide) hplain.legible
    foreign (content ++ (closingText "head" ++ rest))) (length_lt_opening ..) rfl hstep
    hopened.skipMark_eq
  -- it is filled
  have hlabels : ({ tag := "head", attributes := Attribute.plain as } :: [e]).map Open.label =
      [(.html, "head"), (.html, "html")] := by
    rw [List.map_cons, List.map_singleton, he]
    rfl
  obtain ⟨b₂, b₃, kids, hsecond, hstands, hfilled, hkids⟩ := hinside "head" rest hopened hlabels rfl
  -- and closed
  have hclosed := (hfilled.close rfl).withMode .afterHead
  rw [← hfilled.pop_eq] at hclosed
  have hstep' : b₃.step (.closing "head") = .done (b₃.pop.withMode .afterHead) := by
    have hmode : b₃.mode = .inHead := hfilled.mode_eq
    rw [hfilled.step_html rfl]
    simp [modeStep, hmode, headStep]
  have hthird := hstands.leads (fun foreign => nextInMarkup_closing
    (by decide : isTagName "head".toList = true) foreign rest) (length_lt_closing ..) rfl hstep'
    hclosed.skipMark_eq
  refine ⟨_, _, ?_, hclosed, ?_⟩
  · have hleads := hskip.trans (hfirst.trans (hsecond.trans hthird))
    rw [Tree.line_element (by decide) (by decide)]
    simpa [content] using hleads
  · rw [Open.tree, Tree.bare, Attribute.plain_of_sorted hplain.sorted, hkids]

/-! ## The body -/

/-- Behind the head blanks are text of the root element. -/
theorem Ready.takeBlankBehindHead (h : b.Ready .afterHead ids (e :: es) page)
    (hes : (e :: es).map Open.label = [(.html, "html")]) {c : Char} (hc : c = ' ' ∨ c = '\n') :
    ∃ b', b.step (.char c) = .done b' ∧
      b'.Ready .afterHead ids (e.addText c.toString :: es) page := by
  refine ⟨_, ?_, h.insertChar c⟩
  rw [h.step_html (congrArg Prod.fst (List.cons.inj hes).1)]
  simp [modeStep, h.mode_eq, afterHeadStep, isFiller_of_margin hc]

/-- **The body is read as it is written.**  It is not closed yet. -/
theorem Ready.readBody (h : b.Ready .afterHead [j] [e] page) (he : e.label = (.html, "html"))
    (has : settledAttributes .html as = true)
    (hts : Tree.settleIn [(.html, "body"), (.html, "html")] false ts = true) (rest : List Char) :
    ∃ b' i body kids, Leads b ('\n' :: (Tree.element "body" as ts).line 1 false ++ rest) b' rest ∧
      b'.Ready .afterBody [i, j] [body, { e with kids }] page ∧ body.label = (.html, "body") ∧
      body.tree.bare = .element "body" (Attribute.plain as) (Tree.bareList (Tree.paddedList ts)) ∧
      Spaced e.kids kids := by
  have hspace : e.space = .html := congrArg Prod.fst he
  have hplain := settled_plain has
  let content := Tree.between false ts (Tree.lines 2 false ts ++ '\n' :: margin 1)
  have hinside := fills_between hts 1 (adds_lines _ ts hts 2)
  -- the body is opened
  obtain ⟨b₁, outside, hmargin, h₁, houtside⟩ := h.readBlanks (margin_line 1)
    (fun h hes hc => h.takeBlankBehindHead hes hc) (congrArg (· :: []) he)
    (openingText "body" (Attribute.plain as) ++ (content ++ (closingText "body" ++ rest)))
  have hentered := h₁.unskipped.entered
    (by decide : Label.isAny markedTags (.html, "body") = false) (Attribute.plain as)
  have hopened := hentered.keepBody.withMode .inBody
  rw [← h₁.unskipped.insert_eq hplain (by decide) (by decide)] at hopened
  have hstep : b₁.unskipped.step (.opening (readTag "body" (Attribute.plain as))) =
      .done ((b₁.unskipped.insert (readTag "body" (Attribute.plain as))).keepBody.withMode
        .inBody) := by
    have hname : (readTag "body" (Attribute.plain as)).name = "body" :=
      (by decide : readName "body" = "body")
    rw [h₁.unskipped.step_html hspace]
    simp [modeStep, h₁.unskipped.mode_eq, afterHeadStep, hname]
  have hfirst := h₁.standsFor.leads (fun foreign => nextInMarkup_opening (by decide) hplain.legible
    foreign (content ++ (closingText "body" ++ rest))) (length_lt_opening ..) rfl hstep
    hopened.skipMark_eq
  -- it is filled
  have hlabels : ({ tag := "body", attributes := Attribute.plain as } ::
      [{ e with kids := outside }]).map Open.label = [(.html, "body"), (.html, "html")] := by
    rw [List.map_cons, List.map_singleton]
    exact congrArg ([(Space.html, "body"), ·]) he
  obtain ⟨b₂, b₃, kids, hsecond, hstands, hfilled, hkids⟩ := hinside "body" rest hopened hlabels rfl
  -- and left
  have hleft := hfilled.withMode .afterBody
  have hstep' : b₃.step (.closing "body") = .done (b₃.withMode .afterBody) := by
    have hmode : b₃.mode = .inBody := hfilled.mode_eq
    have hscope : b₃.inScope ["body"] = true := hfilled.inScopeOf_top rfl _
    rw [hfilled.step_html rfl]
    simp [modeStep, hmode, bodyStep, hscope]
  have hthird := hstands.leads (fun foreign => nextInMarkup_closing
    (by decide : isTagName "body".toList = true) foreign rest) (length_lt_closing ..) rfl hstep'
    hleft.skipMark_eq
  refine ⟨_, _, _, outside, ?_, hleft, rfl, ?_, houtside⟩
  · have hleads := hmargin.trans (hfirst.trans (hsecond.trans hthird))
    rw [Tree.line_element (by decide) (by decide)]
    simpa [content] using hleads
  · rw [Open.tree, Tree.bare, Attribute.plain_of_sorted hplain.sorted, hkids]

/-! ## Behind the body -/

/-- Behind the body blanks are put into it. -/
theorem Ready.takeBlankBehind (h : b.Ready mode ids (e :: es) page)
    (hmode : mode = .afterBody ∨ mode = .afterAfterBody) {outer : List Label}
    (hes : (e :: es).map Open.label = (.html, "body") :: outer) {c : Char}
    (hc : c = ' ' ∨ c = '\n') :
    ∃ b', b.step (.char c) = .done b' ∧ b'.Ready mode ids (e.addText c.toString :: es) page := by
  have hshown : c ≠ '\x00' := by
    rcases hc with rfl | rfl <;> decide
  refine ⟨_, ?_, h.bodyChar hshown⟩
  rw [h.step_html (congrArg Prod.fst (List.cons.inj hes).1)]
  rcases hmode with rfl | rfl
  · simp [modeStep, h.mode_eq, afterBodyStep, bodyStep, isFiller_of_margin hc]
  · simp [modeStep, h.mode_eq, afterAfterBodyStep, bodyStep, isFiller_of_margin hc]

/-- The layout behind the body. -/
theorem Ready.readMarginBehind (h : b.Ready mode ids (body :: es) page)
    (hmode : mode = .afterBody ∨ mode = .afterAfterBody) (hbody : body.label = (.html, "body"))
    (hms : Margin ms) (rest : List Char) :
    ∃ b' kids, Leads b (ms ++ rest) b' rest ∧
      b'.Ready mode ids ({ body with kids } :: es) page ∧ Spaced body.kids kids :=
  h.readBlanks hms (fun h hes hc => h.takeBlankBehind hmode hes hc)
    (congrArg (· :: es.map Open.label) hbody) rest

/-- A comment behind the body is put behind it in the root element. -/
theorem Ready.commentInRoot (h : b.Ready .afterBody [i, j] [body, html] page) (text : String) :
    (b.commentInRoot text).Ready .afterBody [i, j]
      [body, { html with behind := html.behind ++ [text] }] page := by
  have heq : b.commentInRoot text = { b with store := b.store.attach j (.comment text) } := by
    simp [Builder.commentInRoot, commentIn, put, h.opened_eq, Store.attach, Store.create]
  rw [heq]
  have hshows : b.store.Shows (i :: ([] ++ j :: [Store.page]))
      (body.frame :: ([] ++ html.frame :: [page])) := h.shows
  exact { h with
    shows := hshows.attachBehind rfl text
    noTemplate := by simpa [Open.label] using h.noTemplate }

/-- A comment behind the root element is put behind it on the page. -/
theorem Ready.commentBehindRoot (h : b.Ready .afterAfterBody [i, j] [body, html] page)
    (text : String) : (b.commentOnPage text).Ready .afterAfterBody [i, j] [body, html]
      { page with behind := page.behind ++ [text] } := by
  have heq : b.commentOnPage text =
      { b with store := b.store.attach Store.page (.comment text) } := by
    simp [Builder.commentOnPage, commentIn, put, Store.attach, Store.create]
  rw [heq]
  have hshows : b.store.Shows (i :: ([j] ++ Store.page :: []))
      (body.frame :: ([html.frame] ++ page :: [])) := h.shows
  exact { h with shows := hshows.attachBehind rfl text }

/-- **Comments behind an open part.**  What is shown depends on the comments so far, in the root
element or on the page. -/
theorem readBehind (es : List String → List Open) (page : List String → Frame)
    (hmode : mode = .afterBody ∨ mode = .afterAfterBody)
    (hstep : ∀ {b : Builder} {body : Open} {cs : List String} (text : String),
      b.Ready mode ids (body :: es cs) (page cs) → body.space = .html →
        ∃ b', b.step (.comment text) = .done b' ∧
          b'.Ready mode ids (body :: es (cs ++ [text])) (page (cs ++ [text])))
    (hts : Tree.settledBehind ts = true) {cs : List String}
    (h : b.Ready mode ids (body :: es cs) (page cs)) (hbody : body.label = (.html, "body"))
    (depth : Nat) (rest : List Char) :
    ∃ b' kids more, Leads b (Tree.lines depth false ts ++ rest) b' rest ∧
      b'.Ready mode ids ({ body with kids } :: es (cs ++ more)) (page (cs ++ more)) ∧
      Spaced body.kids kids ∧ more.map Tree.comment = Tree.bareList (Tree.paddedList ts) := by
  induction ts generalizing b body cs with
  | nil => exact ⟨b, body.kids, [], .refl b rest, by simpa using h, .refl _, rfl⟩
  | cons t ts ih =>
      cases t with
      | text s =>
          simp only [Tree.settledBehind, Bool.and_eq_true] at hts
          have hblank : (Tree.text s).isBlankText = true := hts.1
          simpa [Tree.lines, hblank, Tree.paddedList, Tree.bareList] using ih hts.2 h hbody
      | comment s =>
          simp only [Tree.settledBehind, Bool.and_eq_true, decide_eq_true_eq] at hts
          obtain ⟨b₁, kids₁, hmargin, h₁, hkids₁⟩ := h.readMarginBehind hmode hbody
            (margin_line depth) (commentText s ++ (Tree.lines depth false ts ++ rest))
          obtain ⟨b₂, hcomment, h₂⟩ := hstep (Node.paddedText s) h₁.unskipped
            (congrArg Prod.fst hbody)
          have hfirst := h₁.standsFor.leads (fun foreign => nextInMarkup_comment hts.1 foreign
            (Tree.lines depth false ts ++ rest)) (by simp [commentText]; omega) rfl hcomment
            h₂.skipMark_eq
          obtain ⟨b', kids, more, hleads, h', hkids, hmore⟩ := ih hts.2 h₂ hbody
          refine ⟨b', kids, Node.paddedText s :: more, ?_, by simpa using h',
            hkids₁.trans hkids, ?_⟩
          · have hwhole := hmargin.trans (hfirst.trans hleads)
            simpa [Tree.lines, Tree.isBlankText, Tree.line] using hwhole
          · simp [hmore, Tree.paddedList, Tree.bareList, Tree.isBlankText, Tree.padded, Tree.bare]
      | element | doctype => simp [Tree.settledBehind] at hts

/-! ## The root element -/

/-- **What reading the rest of the root element does**: it leads on behind the body, and the trees
in the root element are the given ones up to layout.  Some of them may be comments behind the
body. -/
def Ends (mode : Mode) (ts : List Tree) : Prop :=
  ∀ ⦃b : Builder⦄ ⦃j : Nat⦄ ⦃e : Open⦄ ⦃page : Frame⦄ ⦃rest : List Char⦄,
    b.Ready mode [j] [e] page → e.label = (.html, "html") → withoutMark rest = rest →
    ∃ b' i body kids behind, Leads b (Tree.lines 1 false ts ++ rest) b' rest ∧
      b'.Ready .afterBody [i, j] [body, { e with kids, behind }] page ∧
      body.label = (.html, "body") ∧
      Tree.bareList (kids ++ body.tree :: behind.map .comment) =
        Tree.bareList e.kids ++ Tree.bareList (Tree.paddedList ts)

/-- A comment in front of the head or behind it. -/
theorem Ready.readCommentLine (h : b.Ready mode ids [e] page)
    (hmode : mode = .beforeHead ∨ mode = .afterHead) (he : e.label = (.html, "html")) {s : String}
    (hs : Enclosable (Text.trim s.toList)) (rest : List Char) :
    ∃ b' kids, Leads b ('\n' :: margin 1 ++ (commentText s ++ rest)) b' rest ∧
      b'.Ready mode ids [{ e with kids }] page ∧
      Tree.bareList kids = Tree.bareList e.kids ++ [.comment (Node.paddedText s)] := by
  have hspace : e.space = .html := congrArg Prod.fst he
  have hcomments : mode ∈ commentModes := by
    rcases hmode with rfl | rfl <;> decide
  obtain ⟨b₁, kids, hmargin, h₁, hkids⟩ : ∃ b₁ kids,
      Leads b ('\n' :: margin 1 ++ (commentText s ++ rest)) b₁ (commentText s ++ rest) ∧
        b₁.Ready mode ids [{ e with kids }] page ∧ Spaced e.kids kids := by
    rcases hmode with rfl | rfl
    · obtain ⟨b₁, hskip, h₁⟩ := h.skipMargin (margin_line 1)
        (fun h hc => h.step_blankInRoot hspace hc) (commentText s ++ rest)
      exact ⟨b₁, e.kids, hskip, h₁, .refl _⟩
    · exact h.readBlanks (margin_line 1)
        (fun h hes hc => h.takeBlankBehindHead hes hc) (congrArg (· :: []) he)
        (commentText s ++ rest)
  have hstep := h₁.unskipped.takeComment (fun _ => hcomments) (Node.paddedText s)
  have h' := h₁.unskipped.insertComment (Node.paddedText s)
  have hleads := h₁.standsFor.leads (fun foreign => nextInMarkup_comment hs foreign rest)
    (by simp [commentText]; omega) rfl hstep h'.skipMark_eq
  rw [h₁.unskipped.add_eq] at h'
  refine ⟨_, _, hmargin.trans hleads, h', ?_⟩
  rw [bareList_middle _ _ rfl, hkids.bareList_eq]
  rfl

/-- Comments and blanks in front of an element are read as they are written if the element is. -/
theorem ends_of_settledUpTo {name : String} {inside behind : List Tree → Bool}
    (hmode : mode = .beforeHead ∨ mode = .afterHead)
    (helement : ∀ as us ts, settledAttributes .html as = true → inside us = true →
      behind ts = true → Ends mode (.element name as us :: ts))
    (hts : Tree.settledUpTo name inside behind ts = true) : Ends mode ts := by
  induction ts with
  | nil => simp [Tree.settledUpTo] at hts
  | cons t ts ih =>
      cases t with
      | element tag as us =>
          simp only [Tree.settledUpTo, Bool.and_eq_true, beq_iff_eq] at hts
          obtain ⟨⟨⟨rfl, has⟩, hus⟩, hts⟩ := hts
          exact helement as us ts has hus hts
      | text s =>
          simp only [Tree.settledUpTo, Bool.and_eq_true] at hts
          have hblank : (Tree.text s).isBlankText = true := hts.1
          simpa [Ends, Tree.lines, hblank, Tree.paddedList, Tree.bareList] using ih hts.2
      | comment s =>
          simp only [Tree.settledUpTo, Bool.and_eq_true, decide_eq_true_eq] at hts
          intro b j e page rest h he hrest
          obtain ⟨b₁, kids, hfirst, h₁, hkids⟩ :=
            h.readCommentLine hmode he hts.1 (Tree.lines 1 false ts ++ rest)
          obtain ⟨b', i, body, outside, behind, hsecond, h', hbody, houtside⟩ :=
            ih hts.2 h₁ he hrest
          refine ⟨b', i, body, outside, behind, ?_, h', hbody, ?_⟩
          · have hleads := hfirst.trans hsecond
            simpa [Tree.lines, Tree.isBlankText, Tree.line] using hleads
          · rw [houtside, hkids]
            simp [Tree.paddedList, Tree.bareList, Tree.isBlankText, Tree.padded, Tree.bare]
      | doctype => simp [Tree.settledUpTo] at hts

/-- What is behind the head. -/
theorem ends_of_settledRest (hts : Tree.settledRest ts = true) : Ends .afterHead ts := by
  refine ends_of_settledUpTo (.inr rfl) (fun as us ts has hus hts => ?_) hts
  intro b j e page rest h he _
  obtain ⟨b₁, i, body, outside, hfirst, h₁, hbody, hbare, houtside⟩ :=
    h.readBody he has hus (Tree.lines 1 false ts ++ rest)
  have hnone : { e with kids := outside, behind := [] } = { e with kids := outside } := by
    rw [← h.behind_eq]
  rw [← hnone] at h₁
  obtain ⟨b', kids, behind, hsecond, h', hkids, hbehind⟩ := readBehind
    (fun cs => [{ e with kids := outside, behind := cs }]) (fun _ => page) (.inl rfl)
    (fun text h hspace => ⟨_, by rw [h.step_html hspace, modeStep, h.mode_eq]; rfl,
      h.commentInRoot text⟩) hts h₁ hbody 1 rest
  refine ⟨b', i, _, outside, behind, ?_, h', hbody, ?_⟩
  · have hleads := hfirst.trans hsecond
    simpa [Tree.lines, Tree.isBlankText] using hleads
  · rw [bareList_middle _ _ rfl, Open.bare_tree_of_spaced hkids, hbare, bareList_comments,
      hbehind, houtside.bareList_eq]
    simp [Tree.paddedList, Tree.bareList, Tree.isBlankText, Tree.padded, Tree.bare]

/-- The trees in the root element. -/
theorem ends_of_settledRoot (hts : Tree.settledRoot ts = true) : Ends .beforeHead ts := by
  refine ends_of_settledUpTo (.inl rfl) (fun as us ts has hus hts => ?_) hts
  intro b j e page rest h he hrest
  obtain ⟨b₁, t, hfirst, h₁, hbare⟩ :=
    h.readHead he has hus (Tree.lines 1 false ts ++ rest)
  obtain ⟨b', i, body, outside, behind, hsecond, h', hbody, houtside⟩ :=
    ends_of_settledRest hts h₁ he hrest
  have hkept : t.isBlankText = false := by
    cases t with
    | text => simp [Tree.bare] at hbare
    | element | comment | doctype => rfl
  refine ⟨b', i, body, outside, behind, ?_, h', hbody, ?_⟩
  · have hleads := hfirst.trans hsecond
    simpa [Tree.lines, Tree.isBlankText] using hleads
  · rw [houtside, h.add_eq, bareList_middle _ _ hkept, hbare]
    simp [Tree.paddedList, Tree.bareList, Tree.isBlankText, Tree.padded, Tree.bare]

/-! ## Whole pages -/

/-- **The root element is read as it is written.**  Neither it nor the body is closed. -/
theorem Ready.readHtml (h : b.Ready mode [] [] page)
    (hmode : mode = .initial ∨ mode = .beforeRoot) (has : settledAttributes .html as = true)
    (hts : Tree.settledRoot ts = true) (rest : List Char) :
    ∃ b' i j body html, Leads b ((Tree.element "html" as ts).line 0 false ++ rest) b' rest ∧
      b'.Ready .afterAfterBody [i, j] [body, html] page ∧ body.label = (.html, "body") ∧
      (html.add body.tree).tree.bare =
        .element "html" (Attribute.plain as) (Tree.bareList (Tree.paddedList ts)) := by
  have hplain := settled_plain has
  obtain ⟨b₁, j, hfirst, h₁⟩ := h.readRoot hmode hplain
    (Tree.lines 1 false ts ++ ('\n' :: margin 0 ++ (closingText "html" ++ rest)))
  obtain ⟨b₂, i, body, kids, behind, hsecond, h₂, hbody, hkids⟩ := ends_of_settledRoot hts h₁ rfl
    (withoutMark_margin (margin_line 0) (withoutMark_closing "html" rest))
  obtain ⟨b₃, bodyKids, hthird, h₃, hlayout⟩ :=
    h₂.readMarginBehind (.inl rfl) hbody (margin_line 0) (closingText "html" ++ rest)
  have hleft := h₃.unskipped.withMode .afterAfterBody
  have hstep : b₃.unskipped.step (.closing "html") =
      .done (b₃.unskipped.withMode .afterAfterBody) := by
    rw [h₃.unskipped.step_html (congrArg Prod.fst hbody)]
    simp [modeStep, h₃.unskipped.mode_eq, afterBodyStep]
  have hfourth := h₃.standsFor.leads (fun foreign => nextInMarkup_closing
    (by decide : isTagName "html".toList = true) foreign rest) (length_lt_closing ..) rfl hstep
    hleft.skipMark_eq
  refine ⟨_, i, j, _, _, ?_, hleft, hbody, ?_⟩
  · have hleads := hfirst.trans (hsecond.trans (hthird.trans hfourth))
    rw [Tree.line_element (by decide) (by decide), Tree.between_of_settledRoot hts]
    simpa [margin] using hleads
  · have hsame := Attribute.plain_of_sorted hplain.sorted
    rw [Open.bare_add rfl rfl (Open.bare_tree_of_spaced hlayout)]
    exact congrArg₂ (Tree.element "html") hsame hkids

/-- **A page is read as it is written.** -/
theorem Ready.readPage {declared : Bool} (hts : Tree.settledPage declared ts = true)
    (h : b.Ready (if declared then .beforeRoot else .initial) [] [] page) :
    ∃ b' i j body html page', Leads b (Tree.lines 0 false ts ++ ['\n']) b' [] ∧
      b'.Ready .afterAfterBody [i, j] [body, html] page' ∧ body.label = (.html, "body") ∧
      Tree.bareList (page'.add (html.add body.tree).tree).kids =
        Tree.bareList page.kids ++ Tree.bareList (Tree.paddedList ts) := by
  have hmode : ∀ d : Bool, (if d then Mode.beforeRoot else .initial) = .initial ∨
      (if d then Mode.beforeRoot else .initial) = .beforeRoot := by decide
  have hadd : ∀ {b : Builder} {mode : Mode} {page : Frame} {t : Tree}, b.Ready mode [] [] page →
      t.isBlankText = false →
        Tree.bareList (page.add t).kids = Tree.bareList page.kids ++ [t.bare] := by
    intro b mode page t h ht
    have hnone : page.behind = [] := h.shows.behind_eq
    rw [Frame.add, hnone]
    exact bareList_middle page.kids [] ht
  induction ts generalizing b declared page with
  | nil => simp [Tree.settledPage] at hts
  | cons t ts ih =>
      have hskip := h.skipMargin margin_break fun h hc => h.step_blank (hmode _) hc
      cases t with
      | element tag as us =>
          simp only [Tree.settledPage, Bool.and_eq_true, beq_iff_eq] at hts
          obtain ⟨⟨⟨rfl, has⟩, hus⟩, hts⟩ := hts
          obtain ⟨b₁, hmargin, h₁⟩ :=
            hskip ((Tree.element "html" as us).line 0 false ++ (Tree.lines 0 false ts ++ ['\n']))
          obtain ⟨b₂, i, j, body, html, hhtml, h₂, hbody, hbare⟩ :=
            h₁.readHtml (hmode _) has hus (Tree.lines 0 false ts ++ ['\n'])
          have hnone : { page with behind := [] } = page := by rw [← h.shows.behind_eq]
          rw [← hnone] at h₂
          -- there may be comments behind the root element
          obtain ⟨b₃, kids, behind, hrest, h₃, hkids, hbehind⟩ := readBehind
            (fun _ => [html]) (fun cs => { page with behind := cs }) (.inr rfl)
            (fun text h hspace => ⟨_, by rw [h.step_html hspace, modeStep, h.mode_eq]; rfl,
              h.commentBehindRoot text⟩) hts h₂ hbody 0 ['\n']
          obtain ⟨b₄, kids', hend, h₄, hkids'⟩ :=
            h₃.readMarginBehind (.inr rfl) hbody margin_break []
          refine ⟨b₄, i, j, _, html, _, ?_, h₄, hbody, ?_⟩
          · have hleads := hmargin.trans (hhtml.trans (hrest.trans hend))
            simpa [Tree.lines, Tree.isBlankText] using hleads
          · have hbody' := (Open.bare_tree_of_spaced hkids').trans (Open.bare_tree_of_spaced hkids)
            rw [Frame.add, bareList_middle _ _ rfl, Open.bare_add rfl rfl hbody', hbare,
              bareList_comments, List.nil_append, hbehind]
            simp [Tree.paddedList, Tree.bareList, Tree.isBlankText, Tree.padded, Tree.bare]
      | text => simp [Tree.settledPage] at hts
      | comment s =>
          simp only [Tree.settledPage, Bool.and_eq_true, decide_eq_true_eq] at hts
          obtain ⟨b₁, hmargin, h₁⟩ := hskip (commentText s ++ (Tree.lines 0 false ts ++ ['\n']))
          obtain ⟨b₂, hfirst, h₂⟩ :=
            h₁.readPageComment (hmode _) hts.1 (Tree.lines 0 false ts ++ ['\n'])
          obtain ⟨b', i, j, body, html, page', hsecond, h', hbody, hpage⟩ := ih hts.2 h₂
          refine ⟨b', i, j, body, html, page', ?_, h', hbody, ?_⟩
          · have hleads := hmargin.trans (hfirst.trans hsecond)
            simpa [Tree.lines, Tree.isBlankText, Tree.line, margin] using hleads
          · rw [hpage, hadd h rfl]
            simp [Tree.paddedList, Tree.bareList, Tree.isBlankText, Tree.padded, Tree.bare]
      | doctype name =>
          simp only [Tree.settledPage, Bool.and_eq_true, Bool.not_eq_true',
            List.isEmpty_eq_false_iff] at hts
          obtain ⟨⟨⟨rfl, hne⟩, hname⟩, hts⟩ := hts
          obtain ⟨b₁, hmargin, h₁⟩ := hskip (doctypeText name ++ (Tree.lines 0 false ts ++ ['\n']))
          obtain ⟨b₂, hfirst, h₂⟩ :=
            h₁.readDoctype hne hname (Tree.lines 0 false ts ++ ['\n'])
          obtain ⟨b', i, j, body, html, page', hsecond, h', hbody, hpage⟩ := ih hts h₂
          refine ⟨b', i, j, body, html, page', ?_, h', hbody, ?_⟩
          · have hleads := hmargin.trans (hfirst.trans hsecond)
            simpa [Tree.lines, Tree.isBlankText, Tree.line, margin] using hleads
          · rw [hpage, hadd h rfl]
            simp [Tree.paddedList, Tree.bareList, Tree.isBlankText, Tree.padded, Tree.bare]

/-- What a page holds that has been read to its end. -/
theorem Ready.content (h : b.Ready mode [i, j] [body, html] page) :
    b.store.content = (page.add (html.add body.tree).tree).kids :=
  ((h.shows.close rfl).close rfl).content

/-- The end of the page. -/
theorem Ready.finish (h : b.Ready .afterAfterBody ids (e :: es) page) (hspace : e.space = .html)
    (fuel : Nat) : read (fuel + 1) b [] = b.unskipped := by
  have hstep : b.unskipped.step .finish = .done b.unskipped := by
    rw [h.unskipped.step_html hspace]
    simp [modeStep, h.unskipped.mode_eq, afterAfterBodyStep]
  have hnext : Token.next b.textMode b.inForeign [] = ([.finish], []) := by
    rw [h.textMode_eq]
    rfl
  have haccept : b.accept .finish = b.unskipped := rounds_done hstep _
  rw [read, hnext]
  simp [h.reset_eq, haccept]

end Ready

/-- A builder that is about to read a page. -/
theorem ready_start : ({} : Builder).Ready .initial [] [] ⟨.page, [], []⟩ where
  mode_eq := rfl
  opened_eq := rfl
  formatting_eq := rfl
  form_eq := rfl
  shows := Store.shows_empty
  fostering_eq := rfl
  textMode_eq := rfl
  skipMark_eq := rfl
  noTemplate := by simp

end Builder

end Expectation.Html
