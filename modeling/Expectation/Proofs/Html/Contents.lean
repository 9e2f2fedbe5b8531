import Expectation.Proofs.Html.Flow

/-!
# Content that is not markup

The content of titles, styles, scripts and some other elements is not markup.  It is taken up to the
closing tag of the element in one step, and then the rules go on as before.  The content of a
template is kept apart from the page, so that a template holds nothing when it is written, and its
two tags leave what is open as it was.

## Main results

* `next_unmarked`: such content is taken in one step as it is written.
* `StandsFor.readUnmarked`, `StandsFor.readTemplate`: the elements are read as they are written.
-/

namespace Expectation.Html

/-! ## How it is written -/

/-- The elements whose content is not markup. -/
def unmarkedNames : List String :=
  ["title", "textarea", "script", "style", "noframes", "noscript", "iframe", "noembed", "xmp"]

theorem mem_of_unmarkedIn {outer : List Label} {tag : String} (h : unmarkedIn outer tag = true) :
    tag ∈ unmarkedNames := by
  rw [unmarkedIn] at h
  cases hrules : rulesIn outer with
  | text =>
      simp only [hrules, Bool.or_eq_true, Bool.and_eq_true, List.contains_eq_mem,
        decide_eq_true_eq, beq_iff_eq] at h
      have hnames : ∀ name ∈ ["title", "style", "script", "noframes", "textarea", "iframe",
          "noembed", "noscript"], name ∈ unmarkedNames := by decide
      rcases h with h | ⟨rfl, -⟩
      · exact hnames tag h
      · decide
  | head =>
      simp only [hrules, List.contains_eq_mem, decide_eq_true_eq] at h
      have hnames : ∀ name ∈ ["title", "style", "script", "noframes", "noscript"],
          name ∈ unmarkedNames := by decide
      exact hnames tag h
  | parts =>
      simp only [hrules, List.contains_eq_mem, decide_eq_true_eq] at h
      have hnames : ∀ name ∈ ["style", "script"], name ∈ unmarkedNames := by decide
      exact hnames tag h
  | options =>
      simp only [hrules, beq_iff_eq] at h
      rw [h]
      decide
  | columns | drawing | other => simp [hrules] at h

/-- How the content of such an element is read. -/
def contentMode (tag : String) : TextMode :=
  if ["title", "textarea"].contains tag then .references tag
  else if tag = "script" then .script
  else .raw tag

/-- Whether such content is read as it is written.  It must not end early, and where it is escaped
though it is not read so, nothing may have to be escaped in it. -/
def settledContent (tag : String) (cs : List Char) : Bool :=
  !cs.contains '\x00' &&
    (["title", "textarea"].contains tag ||
      ((isAmong rawTags tag || cs.all fun c => !(['&', '<', '>'].contains c)) &&
        if tag = "script" then
          decide (scriptContent .none 0 (cs ++ closingText tag) = (cs, closingText tag))
        else decide (untilClosing tag.toList (cs ++ closingText tag) = (cs, closingText tag))))

/-- Such content as it is written. -/
def unmarkedText (tag : String) (cs : List Char) : List Char :=
  if isAmong rawTags tag then cs else escapeText ['&', '<', '>'] cs

theorem charTokens_of_not_mem {cs : List Char} (h : '\x00' ∉ cs) :
    charTokens cs = cs.map .char := by
  refine List.map_congr_left fun c hc => ?_
  have hne : c ≠ '\x00' := fun heq => h (heq ▸ hc)
  rw [shown, if_neg hne]

theorem escapeText_of_all {cs : List Char} (h : ∀ c ∈ cs, ['&', '<', '>'].contains c = false) :
    escapeText ['&', '<', '>'] cs = cs := by
  induction cs with
  | nil => rfl
  | cons c cs ih =>
      obtain ⟨hc, hcs⟩ := List.forall_mem_cons.mp h
      rw [escapeText, List.flatMap_cons, hc, if_neg Bool.false_ne_true, ← escapeText, ih hcs]
      rfl

/-- **Content that is not markup is read as it is written.** -/
theorem next_unmarked {tag : String} (htag : tag ∈ unmarkedNames) {cs : List Char}
    (hcs : settledContent tag cs = true) (foreign : Bool) (rest : List Char) :
    Token.next (contentMode tag) foreign (unmarkedText tag cs ++ (closingText tag ++ rest)) =
      (cs.map .char, closingText tag ++ rest) := by
  have hnames : ∀ name ∈ unmarkedNames, isSmallName name.toList = true ∧
      (name ∈ ["title", "textarea"] → isAmong rawTags name = false) := by decide
  obtain ⟨hsmall, hescaped⟩ := hnames tag htag
  simp only [settledContent, Bool.and_eq_true, Bool.not_eq_true', List.contains_eq_mem,
    decide_eq_false_iff_not] at hcs
  obtain ⟨hshown, hcs⟩ := hcs
  rw [contentMode]
  by_cases hreferences : tag ∈ ["title", "textarea"]
  · -- references are read
    have hclosing : closingText tag ++ rest = '<' :: '/' :: (tag.toList ++ '>' :: rest) := by
      simp [closingText]
    have hwritten : unmarkedText tag cs = escapeText ['&', '<', '>'] cs := by
      rw [unmarkedText, hescaped hreferences, if_neg Bool.false_ne_true]
    have huntil := untilClosing_append
      (Text.lacks_of_not_mem (List.mem_cons_self : '<' ∈ ['<', '/'])
        (not_mem_escapeText escapable_text (by simp) (by decide) cs))
      (closes_of_isSmallName hsmall rest)
    rw [if_pos (by simpa using hreferences), hwritten, hclosing, Token.next]
    simp only [huntil, referenceTokens_escapeText escapable_text hshown (Nat.le_refl _)]
  · -- the content is taken as it stands
    obtain ⟨hplain, hends⟩ : (isAmong rawTags tag = true ∨
        ∀ c ∈ cs, ['&', '<', '>'].contains c = false) ∧
          (if tag = "script" then
            decide (scriptContent .none 0 (cs ++ closingText tag) = (cs, closingText tag))
          else decide (untilClosing tag.toList (cs ++ closingText tag) =
            (cs, closingText tag))) = true := by
      simpa [hreferences] using hcs
    have hwritten : unmarkedText tag cs = cs := by
      rw [unmarkedText]
      split
      · rfl
      · exact escapeText_of_all (hplain.resolve_left ‹_›)
    have hlong : tag.toList.length + 2 < (closingText tag).length := by simp [closingText]
    rw [if_neg (by simpa using hreferences), hwritten]
    split at hends
    · rename_i hscript
      have hcontent := scriptContent_append_of_eq (hscript ▸ hlong) (of_decide_eq_true hends) rest
      rw [if_pos hscript, Token.next]
      simp only [hcontent, charTokens_of_not_mem hshown]
    · rename_i hscript
      have huntil := untilClosing_append_of_eq hlong (of_decide_eq_true hends) rest
      rw [if_neg hscript, Token.next]
      simp only [huntil, charTokens_of_not_mem hshown]

/-- The text of an element that holds nothing else. -/
def soleText? (ts : List Tree) : Option (List Char) :=
  match ts.filter (!·.isBlankText) with
  | [] => some []
  | [.text s] => some (Text.trim s.toList)
  | _ => none

/-- Where the sole text comes from: there is none, or it is all that is not blank. -/
theorem of_soleText? {ts : List Tree} {cs : List Char} (h : soleText? ts = some cs) :
    ts.filter (!·.isBlankText) = [] ∧ cs = [] ∨
      ∃ s, ts.filter (!·.isBlankText) = [.text s] ∧ cs = Text.trim s.toList := by
  unfold soleText? at h
  split at h
  · next hts => exact .inl ⟨hts, (Option.some.inj h).symm⟩
  · next s hts => exact .inr ⟨s, hts, (Option.some.inj h).symm⟩
  · simp at h

theorem bareList_paddedList (ts : List Tree) :
    Tree.bareList (Tree.paddedList ts) =
      (ts.filter (!·.isBlankText)).map fun t => t.padded.bare := by
  induction ts with
  | nil => rfl
  | cons t ts ih => cases h : t.isBlankText <;> simp [Tree.paddedList, Tree.bareList, h, ih]

/-- A text that is not left out. -/
theorem not_blank_of_filter_eq {ts : List Tree} {s : String}
    (h : ts.filter (!·.isBlankText) = [.text s]) : Text.allBlank s = false := by
  have hmem : Tree.text s ∈ ts.filter (!·.isBlankText) := h ▸ List.mem_singleton_self _
  simpa [Tree.isBlankText] using (List.mem_filter.mp hmem).2

theorem fresh_nil : Fresh [] := fun s hs => by simp at hs

/-- **The text of an element is the same up to layout.** -/
theorem bareList_appendChars_soleText {ts : List Tree} {cs : List Char}
    (h : soleText? ts = some cs) :
    Tree.bareList (appendChars [] cs) = Tree.bareList (Tree.paddedList ts) := by
  rw [bareList_paddedList]
  obtain ⟨hts, rfl⟩ | ⟨s, hts, rfl⟩ := of_soleText? h
  · rw [hts]
    rfl
  · rw [hts, fresh_nil.bareList_appendChars_trim (not_blank_of_filter_eq hts)]
    rfl

/-- An element of one line. -/
theorem line_of_soleText {tag : String} {ts : List Tree} {cs : List Char}
    (hvoid : isAmong voidTags tag = false) (h : soleText? ts = some cs) (depth : Nat)
    (raw : Bool) (as : List Attribute) :
    (Tree.element tag as ts).line depth raw =
      margin depth ++ openingText tag (Attribute.plain as) ++
        (unmarkedText tag cs ++ closingText tag) := by
  rw [Tree.line, Tree.between]
  obtain ⟨hts, rfl⟩ | ⟨s, hts, rfl⟩ := of_soleText? h
  · have hempty : unmarkedText tag [] = [] := by
      unfold unmarkedText
      split <;> rfl
    simp [hvoid, hts, hempty]
  · simp [hvoid, hts, writtenChars, unmarkedText]

namespace Builder

section Ready

variable {b b₀ : Builder} {mode : Mode} {i : Nat} {ids : List Nat} {e e' : Open} {es : List Open}
  {page : Frame} {outer : List Label} {tag : String} {as : List Attribute} {textMode : TextMode}

/-! ## Opening -/

/-- A builder that takes content that is not markup next, and goes back to a mode then. -/
structure Holding (b : Builder) (textMode : TextMode) (mode : Mode) (ids : List Nat)
    (es : List Open) (page : Frame) : Prop where
  textMode_eq : b.textMode = textMode
  returnMode_eq : b.returnMode = mode
  ready : { b with textMode := .markup }.Ready .inText ids es page

theorem Ready.insertText (h : b.Ready mode ids (e :: es) page) (has : Settled .html as)
    (htag : tag ∈ unmarkedNames) (textMode : TextMode) :
    (b.insertText (readTag tag as) textMode).Holding textMode mode (b.store.cells.size :: ids)
      ({ tag, attributes := as } :: e :: es) page := by
  have hnames : ∀ name ∈ unmarkedNames, readName name = name ∧ name ∉ markedTags ∧
      name ≠ "template" := by decide
  obtain ⟨hread, hmarked, htemplate⟩ := hnames tag htag
  have hentered := h.entered (by simpa [Label.isAny] using hmarked : Label.isAny markedTags
    (.html, tag) = false) as
  rw [Builder.insertText, h.insert_eq has hread htemplate]
  exact ⟨rfl, h.mode_eq, { hentered with mode_eq := rfl, textMode_eq := rfl }⟩

/-- The elements that the rules of the head take. -/
theorem headTag?_unmarked (b : Builder) {tag : Tag}
    (h : tag.name ∈ ["title", "style", "script", "noframes", "noscript"]) :
    b.headTag? tag = some (b.insertText tag (contentMode tag.name)) := by
  have hvoid : ∀ name ∈ ["title", "style", "script", "noframes", "noscript"],
      name ∉ headVoidTags := by decide
  have hnone := hvoid _ h
  simp only [List.mem_cons, List.not_mem_nil, or_false] at h
  rcases h with h | h | h | h | h <;>
    simp [headTag?, contentMode, headRawTags, h] at hnone ⊢ <;> simp [hnone]

/-- Such an element in running text. -/
theorem Ready.openUnmarkedInText (h : b.Ready mode ids (e :: es) page) (has : Settled .html as)
    (htag : tag ∈ ["title", "style", "script", "noframes", "textarea", "iframe", "noembed",
      "noscript"] ∨ tag = "xmp" ∧ paragraphOpen ((e :: es).map Open.label) = false) :
    (b.bodyTag (readTag tag as)).Holding (contentMode tag) mode (b.store.cells.size :: ids)
      ({ tag, attributes := as } :: e :: es) page := by
  rcases htag with htag | ⟨rfl, hp⟩
  · have hnames : ∀ name ∈ ["title", "style", "script", "noframes", "textarea", "iframe",
        "noembed", "noscript"], readName name = name ∧ name ∈ unmarkedNames ∧
          (name ∈ headTags ∧ name ∈ ["title", "style", "script", "noframes", "noscript"] ∨
            name = "textarea" ∨ name = "iframe" ∨ name ∈ ["noembed", "noscript"]) := by decide
    obtain ⟨hread, hunmarked, hfamily⟩ := hnames tag htag
    have hname : (readTag tag as).name = tag := hread
    have hinside := h.insertText has hunmarked (contentMode tag)
    rcases hfamily with ⟨hhead, hraw⟩ | rfl | rfl | hraw
    · rw [bodyTag_head b (hname.symm ▸ hhead), headTag?_unmarked b (hname.symm ▸ hraw), hname]
      exact hinside
    · rw [bodyTag_textarea b hname, hname]
      exact ⟨hinside.textMode_eq, hinside.returnMode_eq, { hinside.ready with }⟩
    · rw [bodyTag_iframe b hname, hname]
      exact h.keepBody.insertText has hunmarked (contentMode "iframe")
    · have hmode : contentMode tag = .raw tag := by
        have hmodes : ∀ name ∈ ["noembed", "noscript"], name ∉ ["title", "textarea"] ∧
            name ≠ "script" := by decide
        obtain ⟨h1, h2⟩ := hmodes tag hraw
        rw [contentMode, if_neg (by simpa using h1), if_neg h2]
      rw [bodyTag_raw b (hname.symm ▸ hraw), hname, ← hmode]
      exact hinside
  · have hname : (readTag "xmp" as).name = "xmp" := (by decide : readName "xmp" = "xmp")
    rw [bodyTag_xmp b hname, h.closeParagraph_eq hp, h.reopenFormatting_eq, hname]
    exact h.keepBody.insertText has (by decide) (contentMode "xmp")

/-- **The tag of an element whose content is not markup.** -/
theorem Ready.openUnmarked (h : b.Ready (modeOf outer) ids (e :: es) page)
    (hes : (e :: es).map Open.label = outer) (hunmarked : unmarkedIn outer tag = true)
    (has : Settled .html as) :
    ∃ b', b.step (.opening (readTag tag as)) = .done b' ∧
      b'.Holding (contentMode tag) (modeOf outer) (b.store.cells.size :: ids)
        ({ tag, attributes := as } :: e :: es) page := by
  have htag := mem_of_unmarkedIn hunmarked
  have hnames : ∀ name ∈ unmarkedNames, readName name = name ∧ name ∉ glyphTags ∧
      name ∉ partTags ∧ name ∉ tablePartNames ∧ name ≠ "html" ∧ name ≠ "head" := by decide
  obtain ⟨hread, hglyph, hpart, hpartName, hhtml, hhead⟩ := hnames tag htag
  have hname : (readTag tag as).name = tag := hread
  have hinside := h.insertText has htag (contentMode tag)
  have hstepPage : inDrawing outer = false →
      b.step (.opening (readTag tag as)) = b.modeStep (.opening (readTag tag as)) :=
    fun hpage => h.step_page (hes ▸ hpage) (by simpa [hname] using hglyph)
  subst hes
  rw [unmarkedIn] at hunmarked
  cases hrules : rulesIn ((e :: es).map Open.label) with
  | text =>
      rw [hrules] at hunmarked
      obtain ⟨hpage, hmode, -⟩ := of_rulesIn hrules (by decide) (by decide)
      refine ⟨_, ?_, h.openUnmarkedInText has (by simpa using hunmarked)⟩
      rw [hstepPage hpage, modeStep_opening b (h.mode_eq ▸ hmode) (by simpa [hname] using hpart)]
  | head =>
      rw [hrules] at hunmarked
      obtain ⟨hpage, hmode, -⟩ := of_rulesIn hrules (by decide) (by decide)
      have hmode : b.mode = .inHead := h.mode_eq.trans (List.mem_singleton.mp hmode)
      have hfamily : tag ∈ ["title", "style", "script", "noframes", "noscript"] := by
        simpa using hunmarked
      have htaken := headTag?_unmarked b (hname.symm ▸ hfamily)
      rw [hname] at htaken
      refine ⟨_, ?_, hinside⟩
      rw [hstepPage hpage]
      simp [modeStep, hmode, headStep, htaken, hname, hhtml, hhead]
  | parts =>
      rw [hrules] at hunmarked
      obtain ⟨hpage, hmode, -⟩ := of_rulesIn hrules (by decide) (by decide)
      have hfamilies : ∀ name ∈ ["style", "script"],
          name ∈ ["title", "style", "script", "noframes", "noscript"] ∧
            name ∈ ["style", "script", "template"] := by decide
      obtain ⟨hraw, hlisted⟩ := hfamilies tag (by simpa using hunmarked)
      have htaken := headTag?_unmarked b (hname.symm ▸ hraw)
      rw [hname] at htaken
      refine ⟨_, ?_, hinside⟩
      rw [hstepPage hpage, modeStep_parts b (h.mode_eq ▸ hmode) (by simpa [hname] using hpart),
        tableStep, tableTag?_head b (hname.symm ▸ hlisted), htaken]
      rfl
  | options =>
      rw [hrules] at hunmarked
      obtain ⟨hpage, hmode, -⟩ := of_rulesIn hrules (by decide) (by decide)
      obtain rfl : tag = "script" := by simpa using hunmarked
      have htaken := headTag?_unmarked b (by rw [hname]; decide)
      rw [hname] at htaken
      refine ⟨_, ?_, hinside⟩
      rw [hstepPage hpage,
        modeStep_selection b (h.mode_eq ▸ hmode) (by simpa [hname] using hpartName)]
      simp [selectStep, hname, htaken]
  | columns | drawing | other =>
      rw [hrules] at hunmarked
      exact absurd hunmarked Bool.false_ne_true

/-! ## Reading -/

/-- The characters of such content. -/
theorem Ready.acceptChars (h : b.Ready .inText ids (e :: es) page) (hspace : e.space = .html)
    (cs : List Char) (hfirst : b.skipNewline = false ∨ cs.head? ≠ some '\n') :
    ((cs.map Token.char).foldl accept b).returnMode = b.returnMode ∧
      ((cs.map Token.char).foldl accept b).Ready .inText ids
        ({ e with kids := appendChars e.kids cs } :: es) page := by
  induction cs generalizing b e with
  | nil => exact ⟨rfl, h⟩
  | cons c cs ih =>
      have hstep : b.unskipped.step (.char c) = .done (b.unskipped.insertChar c) := by
        rw [h.unskipped.step_html hspace, modeStep, h.unskipped.mode_eq]
        rfl
      have haccept : b.accept (.char c) = b.unskipped.insertChar c := by
        rw [accept_char (by simpa using hfirst), rounds_done hstep]
      have hinserted := h.unskipped.insertChar c
      rw [h.addText_eq] at hinserted
      obtain ⟨hreturn, hrest⟩ := ih hinserted hspace (.inl (skipNewline_insertChar _ c))
      obtain ⟨store, hstore⟩ := b.unskipped.exists_insertChar c
      rw [List.map_cons, List.foldl_cons, haccept]
      refine ⟨hreturn.trans ?_, hrest⟩
      rw [hstore]
      rfl

/-- The content of an element and its closing tag. -/
theorem Holding.leads (h : b.Holding (contentMode tag) mode (i :: ids)
      ({ tag, attributes := as } :: e :: es) page)
    (htag : tag ∈ unmarkedNames) {cs : List Char} (hcs : settledContent tag cs = true)
    (hfirst : cs.head? ≠ some '\n') {rest : List Char} (hrest : withoutMark rest = rest) :
    ∃ b', Leads b (unmarkedText tag cs ++ (closingText tag ++ rest)) b' rest ∧
      b'.Ready mode ids (e.add (.element tag as (appendChars [] cs)) :: es) page := by
  have hnames : ∀ name ∈ unmarkedNames, isSmallName name.toList = true ∧ name ∉ markedTags := by
    decide
  obtain ⟨hsmall, hmarked⟩ := hnames tag htag
  -- the content is taken
  obtain ⟨hreturn, hfilled⟩ := h.ready.acceptChars rfl cs (.inr hfirst)
  generalize hb₂ : (cs.map Token.char).foldl accept { b with textMode := .markup } = b₂
    at hreturn hfilled
  have hreset : { b with textMode := .markup, skipMark := false } =
      { b with textMode := .markup } := h.ready.reset_eq
  have hcontent := fun fuel => read_succ b (unmarkedText tag cs ++ (closingText tag ++ rest))
    (cs.map .char) (by rw [h.textMode_eq]; exact next_unmarked htag hcs _ rest) (by simp) fuel
  simp only [hreset, hb₂, hfilled.skipMark_eq, Bool.false_eq_true, if_false] at hcontent
  -- the closing tag is taken
  let b₃ := { b₂.unskipped.pop.withMode b₂.returnMode with skipMark := tag == "script" }
  have hstep : b₂.unskipped.step (.closing tag) = .done b₃ := by
    rw [hfilled.unskipped.step_html rfl, modeStep, hfilled.unskipped.mode_eq]
    rfl
  have haccept : b₂.accept (.closing tag) = b₃ := by
    rw [accept_markup b₂ rfl, rounds_done hstep]
  have hname : readName tag = tag := readName_of_isSmallName hsmall
  have hnext : Token.next b₂.textMode b₂.inForeign (closingText tag ++ rest) =
      ([.closing tag], rest) := by
    have hmarkup := nextInMarkup_closing (isTagName_of_isSmallName hsmall) b₂.inForeign rest
    rw [hname] at hmarkup
    rw [hfilled.textMode_eq]
    exact hmarkup
  have hclosing := fun fuel => read_succ b₂ (closingText tag ++ rest) [.closing tag] hnext
    (by simp) fuel
  simp only [hfilled.reset_eq, List.foldl_cons, List.foldl_nil, haccept, hrest,
    ite_self] at hclosing
  -- the mark that a script leaves is looked at in the step behind it
  have hmark : ∀ fuel,
      read (fuel + 1) b₃ rest = read (fuel + 1) { b₃ with skipMark := false } rest := by
    intro fuel
    cases hscript : tag == "script" with
    | true => simpa [b₃, hscript] using read_skipMark { b₃ with skipMark := false } rest fuel
    | false => simp [b₃, hscript]
  refine ⟨{ b₃ with skipMark := false }, ⟨2, ?_, fun fuel => ?_⟩, ?_⟩
  · simp only [closingText, List.length_append, List.length_cons]
    omega
  · rw [hcontent, hclosing, hmark]
  · have hquiet : Label.isAny markedTags (Open.label { tag, attributes := as }) = false := by
      simpa [Label.isAny, Open.label] using hmarked
    have hclosed := hfilled.unskipped.close hquiet
    rw [← hfilled.unskipped.pop_eq] at hclosed
    exact { hclosed with mode_eq := hreturn.trans h.returnMode_eq, skipMark_eq := rfl }

/-- **An element whose content is not markup is read as it is written.** -/
theorem StandsFor.readUnmarked (hb : b.StandsFor b₀)
    (h : b₀.Ready (modeOf outer) ids (e :: es) page) (hes : (e :: es).map Open.label = outer)
    (hunmarked : unmarkedIn outer tag = true) (has : Settled .html as) {cs : List Char}
    (hcs : settledContent tag cs = true) (hfirst : cs.head? ≠ some '\n') {rest : List Char}
    (hrest : withoutMark rest = rest) :
    ∃ b', Leads b (openingText tag as ++ (unmarkedText tag cs ++ (closingText tag ++ rest)))
        b' rest ∧
      b'.Ready (modeOf outer) ids (e.add (.element tag as (appendChars [] cs)) :: es) page := by
  have htag := mem_of_unmarkedIn hunmarked
  have hnames : ∀ name ∈ unmarkedNames, isTagName name.toList = true := by decide
  obtain ⟨b₁, hstep, hinside⟩ := h.openUnmarked hes hunmarked has
  have hfirstStep := hb.leads (fun foreign => nextInMarkup_opening (hnames tag htag) has.legible
    foreign (unmarkedText tag cs ++ (closingText tag ++ rest))) (length_lt_opening ..) rfl hstep
    hinside.ready.skipMark_eq
  obtain ⟨b', hleads, h'⟩ := hinside.leads htag hcs hfirst hrest
  exact ⟨b', hfirstStep.trans hleads, h'⟩

/-! ## Templates -/

/-- The tag of a template opens it, by whatever rules. -/
theorem Ready.step_template (h : b.Ready (modeOf outer) ids (e :: es) page)
    (hes : (e :: es).map Open.label = outer) (htakes : takesTemplate outer = true)
    (as : List Attribute) :
    b.step (.opening (readTag "template" as)) =
      .done (b.openTemplate (readTag "template" as)) := by
  have hname : (readTag "template" as).name = "template" :=
    (by decide : readName "template" = "template")
  have hothers : "template" ∉ headVoidTags ++ headRawTags ∧ "template" ∈ headTags ∧
      "template" ∉ glyphTags ++ partTags ++ tablePartNames := by decide
  simp only [List.mem_append, not_or] at hothers
  obtain ⟨⟨hvoid, hraw⟩, hhead, ⟨hglyph, hpart⟩, hpartName⟩ := hothers
  have htaken : b.headTag? (readTag "template" as) =
      some (b.openTemplate (readTag "template" as)) := by
    simp [headTag?, hname, hvoid, hraw]
  subst hes
  rw [takesTemplate] at htakes
  cases hrules : rulesIn ((e :: es).map Open.label) with
  | text =>
      obtain ⟨hpage, hmode, -⟩ := of_rulesIn hrules (by decide) (by decide)
      rw [h.step_page hpage (by simpa [hname] using hglyph),
        modeStep_opening b (h.mode_eq ▸ hmode) (by simpa [hname] using hpart),
        bodyTag_head b (hname.symm ▸ hhead), htaken]
      rfl
  | head =>
      obtain ⟨hpage, hmode, -⟩ := of_rulesIn hrules (by decide) (by decide)
      have hmode : b.mode = .inHead := h.mode_eq.trans (List.mem_singleton.mp hmode)
      rw [h.step_page hpage (by simpa [hname] using hglyph)]
      simp [modeStep, hmode, headStep, hname, htaken]
  | parts =>
      obtain ⟨hpage, hmode, -⟩ := of_rulesIn hrules (by decide) (by decide)
      rw [h.step_page hpage (by simpa [hname] using hglyph),
        modeStep_parts b (h.mode_eq ▸ hmode) (by simpa [hname] using hpart), tableStep,
        tableTag?_head b (by rw [hname]; decide), htaken]
      rfl
  | columns =>
      obtain ⟨hpage, hmode, -⟩ := of_rulesIn hrules (by decide) (by decide)
      have hmode : b.mode = .inColumnGroup := h.mode_eq.trans (List.mem_singleton.mp hmode)
      rw [h.step_page hpage (by simpa [hname] using hglyph)]
      simp [modeStep, hmode, columnGroupStep, hname]
  | options =>
      obtain ⟨hpage, hmode, -⟩ := of_rulesIn hrules (by decide) (by decide)
      rw [h.step_page hpage (by simpa [hname] using hglyph),
        modeStep_selection b (h.mode_eq ▸ hmode) (by simpa [hname] using hpartName)]
      simp [selectStep, hname, htaken]
  | drawing | other =>
      rw [hrules] at htakes
      exact absurd htakes (by decide)

/-- A builder with a template that is open in a cell. -/
def withTemplate (b : Builder) (p : Nat) (as : List Attribute) : Builder :=
  { b with
    store := b.store.attachHollow p (.element .html "template" as)
    opened := b.store.cells.size :: b.opened
    formatting := .marker :: b.formatting
    framesetOk := false
    mode := .inTemplate
    templateModes := .inTemplate :: b.templateModes }

theorem Shown.openTemplate_eq (h : b.Shown (i :: ids) (e :: es) page) (has : Settled .html as) :
    b.openTemplate (readTag "template" as) = b.withTemplate i as := by
  have hname : (readTag "template" as).name = "template" :=
    (by decide : readName "template" = "template")
  have hinsert : b.insert (readTag "template" as) = { b with
      store := b.store.attachHollow i (.element .html "template" as)
      opened := b.store.cells.size :: b.opened } := by
    rw [insert, has.plainAttributes_eq, hname]
    simp [insertAndOpen, createElement, Attribute.addMissing_nil has.sorted, h.place_eq, put,
      Store.attachHollow, Store.attach, Store.create]
  simp only [openTemplate, hinsert, withTemplate]

theorem label?_of_cell {space : Space} {tag : String} {as : List Attribute} {parent : Option Nat}
    {children : List Nat} (h : b.store.cell? i = some ⟨.element space tag as, parent, children⟩) :
    b.label? i = some (space, tag) := by
  simp [label?, h]

/-- The innermost element is a template. -/
theorem closeTemplate_eq {rest : List Nat} (hopened : b.opened = i :: rest)
    (hlabel : b.label? i = some (.html, "template")) :
    b.closeTemplate = { b.clearFormatting with
      opened := rest
      templateModes := b.templateModes.drop 1 }.resetMode := by
  have hany := isAny_of_label hlabel
  have htemplate : b.isAny ["template"] i = true := hany _
  have hends : b.isAny templateEndTags i = false := by
    rw [hany]
    decide
  have hopen : b.hasOpenTemplate = true := by
    rw [hasOpenTemplate, hasOpen, hopened, List.any_cons, htemplate, Bool.true_or]
  have hkept : b.opened.dropWhile (b.isAny templateEndTags) = b.opened := by
    rw [hopened, List.dropWhile_cons_of_neg (by simp [hends])]
  have hrest : afterFirst (b.isAny ["template"]) b.opened = rest := by
    simp [hopened, afterFirst, htemplate]
  rw [closeTemplate, if_pos hopen, hkept]
  simp only [popThrough, clearFormatting, hrest]

/-- **A template is closed at once**: nothing of it is remembered, and it holds nothing. -/
theorem Ready.closeTemplate (h : b.Ready mode (i :: ids) (e :: es) page)
    (hmode : modeOf ((e :: es).map Open.label) ≠ .afterHead) (as : List Attribute) :
    ∃ b', (b.withTemplate i as).unskipped.step (.closing "template") = .done b' ∧
      b'.Ready (modeOf ((e :: es).map Open.label)) (i :: ids)
        (e.add (.element "template" as []) :: es) page := by
  obtain ⟨c, hc⟩ : ∃ c, b.store.cell? i = some c :=
    ⟨_, Array.getElem?_eq_getElem (h.shows.lt_size i List.mem_cons_self)⟩
  have hcell := Store.cell?_attachHollow hc (.element .html "template" as) b.store.cells.size
  rw [if_pos rfl] at hcell
  have hlabel : (b.withTemplate i as).unskipped.label? b.store.cells.size =
      some (.html, "template") := label?_of_cell hcell
  have hopened : (b.withTemplate i as).unskipped.opened = b.store.cells.size :: b.opened := rfl
  have hclosed : { (b.withTemplate i as).unskipped.clearFormatting with
      opened := b.opened
      templateModes := b.templateModes }.Ready .inTemplate (i :: ids)
        (e.add (.element "template" as []) :: es) page :=
    { h with
      mode_eq := rfl
      shows := h.shows.attachHollow .html "template" as
      noTemplate := List.forall_mem_cons.mpr (List.forall_mem_cons.mp h.noTemplate) }
  have hstep : (b.withTemplate i as).unskipped.modeStep (.closing "template") =
      .done (b.withTemplate i as).unskipped.closeTemplate := rfl
  refine ⟨_, ?_, hclosed.resetMode hmode⟩
  rw [step_html hopened hlabel, hstep, closeTemplate_eq hopened hlabel]
  rfl

/-- **A template is read as it is written.** -/
theorem StandsFor.readTemplate (hb : b.StandsFor b₀)
    (h : b₀.Ready (modeOf outer) ids (e :: es) page) (hes : (e :: es).map Open.label = outer)
    (htakes : takesTemplate outer = true) (has : Settled .html as) (rest : List Char) :
    ∃ b', Leads b (openingText "template" as ++ (closingText "template" ++ rest)) b' rest ∧
      b'.Ready (modeOf outer) ids (e.add (.element "template" as []) :: es) page := by
  obtain ⟨i, ids, rfl, -⟩ := h.exists_top
  have hname : isTagName "template".toList = true := by decide
  have hmode : modeOf outer ≠ .afterHead := by
    have hmodes : ∀ rules, Mode.afterHead ∉ modesWith rules := by
      intro rules
      cases rules <;> decide
    have hrules : rulesIn outer ≠ .drawing ∧ rulesIn outer ≠ .other := by
      rw [takesTemplate] at htakes
      constructor <;> intro hrules <;> rw [hrules] at htakes <;> exact absurd htakes (by decide)
    obtain ⟨-, hmem, -⟩ := of_rulesIn rfl hrules.1 hrules.2
    exact fun heq => hmodes _ (heq ▸ hmem)
  have hopen := h.step_template hes htakes as
  rw [h.openTemplate_eq has] at hopen
  subst hes
  obtain ⟨b', hclose, h'⟩ := h.closeTemplate hmode as
  have hopens := hb.leads (fun foreign => nextInMarkup_opening hname has.legible foreign
    (closingText "template" ++ rest)) (length_lt_opening ..) rfl hopen h.skipMark_eq
  have hcloses : Leads (b₀.withTemplate i as) (closingText "template" ++ rest) b' rest := by
    refine leads_of_accept (b := b₀.withTemplate i as) h.textMode_eq h.skipMark_eq
      (fun foreign => nextInMarkup_closing hname foreign rest) (by simp [closingText]; omega)
      (by simp) ?_ h'.skipMark_eq
    rw [show readName "template" = "template" by decide, accept_markup _ rfl, rounds_done hclose]
  exact ⟨b', hopens.trans hcloses, h'⟩

end Ready

end Builder

end Expectation.Html
