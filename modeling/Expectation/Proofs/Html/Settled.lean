import Expectation.Proofs.Html.Contents

/-!
# What is read as it is written

A tree is *settled* if its written form is read as the tree: its elements are opened where their
tags stand and hold what the rules let them hold, its attributes have names that a parser leaves
alone, its comments do not end early, no two of its texts meet, and content that is not markup does
not end early.  All this can be tested.

What reading the written form of a piece of a page does is said by `Adds`, in which the pieces are
put together.  A tag or a comment may follow layout that has been kept back, so what is said of a
tree with tags, by `Stands`, begins where this has been put in.

## Main results

* `adds_line`, `adds_lines`: settled trees are read as they are written.
-/

namespace Expectation.Html

instance (cs : List Char) : Decidable (Enclosable cs) := inferInstanceAs (Decidable (_ ∧ _))

namespace Tree

/-! ## Settled trees -/

/-- Whether a tree is a text. -/
def isText : Tree → Bool
  | .text _ => true
  | _ => false

/-- Whether what an element holds is written as running text is.  The names of scripts and styles
also stand in drawings, where their content is markup. -/
def escapes (tag : String) (ts : List Tree) : Bool :=
  !isAmong rawTags tag ||
    (soleText? ts).any fun cs => cs.all fun c => !(['&', '<', '>'].contains c)

mutual

/-- Whether a tree inside elements with some labels, innermost first, is read as it is written.
An element has to be opened where its tag stands, and its content to be read as what it is. -/
def settles (outer : List Label) : Tree → Bool
  | .element tag as ts =>
    if (tag == "template" && takesTemplate outer) || standsIn outer tag (Attribute.plain as) then
      settledAttributes .html as && ts.isEmpty
    else if unmarkedIn outer tag then
      settledAttributes .html as && (soleText? ts).any (settledContent tag)
    else
      opensIn outer tag (Attribute.plain as) && settledAttributes (spaceIn outer tag) as &&
        !isAmong voidTags tag && escapes tag ts &&
        settleIn ((spaceIn outer tag, tag) :: outer) false ts
  | .text s => takesText outer && !s.toList.contains '\x00'
  | .comment s => rulesIn outer != .other && decide (Enclosable (Text.trim s.toList))
  | .doctype _ => false

/-- Whether trees are; `afterText` says whether they stand behind a text, which would be joined
with another one. -/
def settleIn (outer : List Label) (afterText : Bool) : List Tree → Bool
  | [] => true
  | t :: ts =>
    if t.isBlankText then settleIn outer afterText ts
    else settles outer t && !(afterText && t.isText) && settleIn outer t.isText ts

end

/-- What holds of trees that are read as they are written holds of each of them. -/
theorem settles_of_settleIn {outer : List Label} {afterText : Bool} {ts : List Tree}
    (h : settleIn outer afterText ts = true) :
    ∀ t ∈ ts.filter (!·.isBlankText), t.settles outer = true := by
  induction ts generalizing afterText with
  | nil => simp
  | cons t ts ih =>
      rw [settleIn] at h
      cases hblank : t.isBlankText with
      | true =>
          rw [if_pos hblank] at h
          simpa [hblank] using ih h
      | false =>
          rw [if_neg (by simp [hblank])] at h
          simp only [Bool.and_eq_true] at h
          simpa [hblank] using ⟨h.1.1, fun u hu hkept => ih h.2 u (by simp [hu, hkept])⟩

/-- Something is read as it is written only where the rules are known. -/
theorem rules_of_settles {outer : List Label} {t : Tree} (h : t.settles outer = true) :
    rulesIn outer ≠ .other := by
  intro hother
  cases t with
  | element =>
      have htemplate : takesTemplate outer = false := by
        rw [takesTemplate, hother]
        decide
      rw [settles] at h
      simp [htemplate, standsIn, unmarkedIn, opensIn, hother] at h
  | text =>
      have htext : takesText outer = false := by
        rw [takesText, hother]
        decide
      simp [settles, htext] at h
  | comment => simp [settles, hother] at h
  | doctype => simp [settles] at h

end Tree

/-! ### Names -/

/-- The names of elements that are opened are read as names. -/
theorem isTagName_of_opensIn {outer : List Label} {tag : String} {as : List Attribute}
    (h : opensIn outer tag as = true) : isTagName tag.toList = true := by
  rw [opensIn] at h
  cases hrules : rulesIn outer with
  | text =>
      rw [hrules] at h
      exact isTagName_of_isSmallName (Builder.of_opensInText h).1
  | parts =>
      rw [hrules] at h
      have hnames : ∀ name ∈ ["caption", "colgroup", "tr"] ++ Builder.rowGroupTags ++
          Builder.cellTags, isTagName name.toList = true := by decide
      exact hnames tag (mem_of_opensInTable h)
  | options =>
      rw [hrules] at h
      have hnames : ∀ name ∈ ["option", "optgroup"], isTagName name.toList = true := by decide
      exact hnames tag (mem_of_opensInSelect h)
  | drawing =>
      simp only [hrules, opensInDrawing, Bool.and_eq_true] at h
      exact h.1.1
  | head | columns | other => simp [hrules] at h

/-- The elements without content are written without closing tags. -/
theorem of_standsIn {outer : List Label} {tag : String} {as : List Attribute}
    (h : standsIn outer tag as = true) :
    isTagName tag.toList = true ∧ isAmong voidTags tag = true := by
  have hnames : ∀ name ∈ ["hr", "col"] ++ voidTextTags, isTagName name.toList = true ∧
      isAmong voidTags name = true := by decide
  refine hnames tag ?_
  rw [standsIn] at h
  have hhead : ∀ name ∈ ["base", "link", "meta"], name ∈ ["hr", "col"] ++ voidTextTags := by decide
  cases hrules : rulesIn outer with
  | text =>
      rw [hrules] at h
      rcases List.mem_cons.mp (mem_of_standsInText h) with rfl | hmem
      · simp
      · exact List.mem_append_right _ hmem
  | head => exact hhead tag (by simpa [hrules] using h)
  | parts =>
      simp only [hrules, Bool.and_eq_true, beq_iff_eq] at h
      rw [h.1]
      decide
  | columns =>
      simp only [hrules, beq_iff_eq] at h
      rw [h]
      decide
  | options =>
      simp only [hrules, Bool.and_eq_true, beq_iff_eq] at h
      rw [h.1]
      decide
  | drawing | other => simp [hrules] at h

theorem of_unmarkedIn {outer : List Label} {tag : String} (h : unmarkedIn outer tag = true) :
    isTagName tag.toList = true ∧ isAmong voidTags tag = false := by
  have hnames : ∀ name ∈ unmarkedNames, isTagName name.toList = true ∧
      isAmong voidTags name = false := by decide
  exact hnames tag (mem_of_unmarkedIn h)

theorem ne_documentTag_of_isTagName {tag : String} (h : isTagName tag.toList = true) :
    tag ≠ documentTag := by
  rintro rfl
  exact absurd h (by decide)

namespace Tree

/-! ### Settled trees are orderly -/

/-- An element that holds nothing but text holds no elements. -/
theorem orderly_of_soleText {ts : List Tree} {cs : List Char} (h : soleText? ts = some cs) :
    ∀ t ∈ ts, t.Orderly := by
  intro t ht
  cases t with
  | text => exact .text
  | comment => exact .comment
  | doctype => exact .doctype
  | element tag as us =>
      have hmem : element tag as us ∈ ts.filter (!·.isBlankText) :=
        List.mem_filter.mpr ⟨ht, rfl⟩
      obtain ⟨hts, -⟩ | ⟨s, hts, -⟩ := of_soleText? h
      all_goals
        rw [hts] at hmem
        simp at hmem

mutual

theorem orderly_of_settles {outer : List Label} (t : Tree) (h : t.settles outer = true) :
    t.Orderly := by
  cases t with
  | text => exact .text
  | comment => exact .comment
  | doctype => exact .doctype
  | element tag as ts =>
      rw [settles] at h
      split at h
      · -- an element without content, or a template
        rename_i hvoid
        have hname : tag ≠ documentTag := by
          rcases Bool.or_eq_true_iff.mp hvoid with htemplate | hstands
          · rintro rfl
            exact absurd (Bool.and_eq_true_iff.mp htemplate).1 (by decide)
          · exact ne_documentTag_of_isTagName (of_standsIn hstands).1
        have hempty : ts = [] := by simpa using (Bool.and_eq_true_iff.mp h).2
        exact .element hname (by simp [hempty])
      split at h
      · rename_i hunmarked
        obtain ⟨cs, hsole, -⟩ := (Option.any_eq_true ..).mp (Bool.and_eq_true_iff.mp h).2
        exact .element (ne_documentTag_of_isTagName (of_unmarkedIn hunmarked).1)
          (orderly_of_soleText hsole)
      · simp only [Bool.and_eq_true] at h
        exact .element (ne_documentTag_of_isTagName (isTagName_of_opensIn h.1.1.1.1))
          (orderly_of_settleIn ts h.2)

theorem orderly_of_settleIn {outer : List Label} {afterText : Bool} (ts : List Tree)
    (h : settleIn outer afterText ts = true) : ∀ t ∈ ts, t.Orderly := by
  cases ts with
  | nil => simp
  | cons t ts =>
      rw [settleIn] at h
      split at h
      · rename_i hblank
        cases t with
        | text => exact List.forall_mem_cons.mpr ⟨.text, orderly_of_settleIn ts h⟩
        | element | comment | doctype => simp [isBlankText] at hblank
      · simp only [Bool.and_eq_true] at h
        exact List.forall_mem_cons.mpr ⟨orderly_of_settles t h.1.1, orderly_of_settleIn ts h.2⟩

end

/-- Tags with what is written as running text between them. -/
theorem line_of_escapes {tag : String} {ts : List Tree} (hvoid : isAmong voidTags tag = false)
    (h : escapes tag ts = true) (depth : Nat) (as : List Attribute) :
    (element tag as ts).line depth false = margin depth ++ (openingText tag (Attribute.plain as) ++
      (between false ts (lines (depth + 1) false ts ++ '\n' :: margin depth) ++
        closingText tag)) := by
  cases hraw : isAmong rawTags tag with
  | false => exact line_element hvoid hraw depth false as ts
  | true =>
      rw [escapes, hraw] at h
      obtain ⟨cs, hsole, hcs⟩ := (Option.any_eq_true ..).mp h
      rw [List.all_eq_true] at hcs
      have hplain : unmarkedText tag cs = escapeText ['&', '<', '>'] cs := by
        rw [unmarkedText, if_pos hraw, escapeText_of_all fun c hc => by simpa using hcs c hc]
      rw [line_of_soleText hvoid hsole, hplain, between]
      obtain ⟨hts, rfl⟩ | ⟨s, hts, rfl⟩ := of_soleText? hsole
      · simp [hts, escapeText]
      · simp [hts, writtenChars]

theorem isText_bare (t : Tree) : t.bare.isText = t.isText := by
  cases t <;> rfl

end Tree

/-! ## Reading running text -/

theorem withoutMark_closing (tag : String) (rest : List Char) :
    withoutMark (closingText tag ++ rest) = closingText tag ++ rest := rfl

theorem withoutMark_margin {ms : List Char} (hms : Margin ms) {rest : List Char}
    (hrest : withoutMark rest = rest) : withoutMark (ms ++ rest) = ms ++ rest := by
  cases ms with
  | nil => exact hrest
  | cons m ms => rcases hms m List.mem_cons_self with rfl | rfl <;> rfl

theorem withoutMark_lines (depth : Nat) (raw : Bool) (ts : List Tree) {rest : List Char}
    (hrest : withoutMark rest = rest) :
    withoutMark (Tree.lines depth raw ts ++ rest) = Tree.lines depth raw ts ++ rest := by
  induction ts with
  | nil => exact hrest
  | cons t ts ih =>
      rw [Tree.lines]
      split
      · exact ih
      · rfl

theorem fresh_concat (kids : List Tree) {t : Tree} (ht : t.isText = false) :
    Fresh (kids ++ [t]) := by
  intro s hs
  rw [List.getLast?_concat, Option.some.injEq] at hs
  simp [hs, Tree.isText] at ht

theorem mem_of_mem_trim {c : Char} {cs : List Char} (h : c ∈ Text.trim cs) : c ∈ cs := by
  have hstart := (List.dropWhile_suffix _).subset (List.mem_reverse.mp h)
  exact (List.dropWhile_suffix _).subset (List.mem_reverse.mp hstart)

/-- A text that is written begins with no line end. -/
theorem head?_trim_ne (cs : List Char) : (Text.trim cs).head? ≠ some '\n' := by
  intro h
  exact absurd (Text.isBlank_of_head?_trim h) (by decide)

namespace Builder

/-- **What reading a piece of a page does**: it leads on to a builder with more trees in the
innermost open element, which are the given ones up to layout.  Text joins a text in front of it,
so it is told whether there may be one before the piece, and whether there may be one behind it. -/
def Adds (outer : List Label) (textBefore textBehind : Bool) (cs : List Char)
    (ts : List Tree) : Prop :=
  ∀ ⦃b : Builder⦄ ⦃ids : List Nat⦄ ⦃e : Open⦄ ⦃es : List Open⦄ ⦃page : Frame⦄
    ⦃rest : List Char⦄, b.Ready (modeOf outer) ids (e :: es) page →
    (e :: es).map Open.label = outer → (textBefore = false → Fresh e.kids) →
    withoutMark rest = rest →
    ∃ b' kids, Leads b (cs ++ rest) b' rest ∧
      b'.Ready (modeOf outer) ids ({ e with kids } :: es) page ∧
      Tree.bareList kids = Tree.bareList e.kids ++ ts ∧ (textBehind = false → Fresh kids)

/-- **What reading a tree does that is written with tags, or is a comment.** -/
def Stands (outer : List Label) (cs : List Char) (t : Tree) : Prop :=
  ∀ ⦃b b₀ : Builder⦄ ⦃ids : List Nat⦄ ⦃e : Open⦄ ⦃es : List Open⦄ ⦃page : Frame⦄
    ⦃rest : List Char⦄, b.StandsFor b₀ → b₀.Ready (modeOf outer) ids (e :: es) page →
    (e :: es).map Open.label = outer → withoutMark rest = rest →
    ∃ b' t', Leads b (cs ++ rest) b' rest ∧
      b'.Ready (modeOf outer) ids (e.add t' :: es) page ∧ t'.bare = t

/-- **What reading the content of an element does**, up to its closing tag: the element holds the
given trees then, up to layout. -/
def Fills (outer : List Label) (cs : List Char) (ts : List Tree) : Prop :=
  ∀ ⦃b : Builder⦄ ⦃ids : List Nat⦄ ⦃e : Open⦄ ⦃es : List Open⦄ ⦃page : Frame⦄ (tag : String)
    (rest : List Char), b.Ready (modeOf outer) ids (e :: es) page →
    (e :: es).map Open.label = outer → e.kids = [] →
    ∃ b₁ b₀ kids, Leads b (cs ++ (closingText tag ++ rest)) b₁ (closingText tag ++ rest) ∧
      b₁.StandsFor b₀ ∧ b₀.Ready (modeOf outer) ids ({ e with kids } :: es) page ∧
      Tree.bareList kids = ts

section Adds

variable {outer : List Label} {x y z : Bool} {cs cs' ms : List Char} {t : Tree}
  {ts ts' : List Tree} {tag : String} {as : List Attribute}

theorem adds_nil : Adds outer x x [] [] := by
  intro b ids e es page rest h _ hfresh _
  exact ⟨b, e.kids, .refl b rest, h, by simp, hfresh⟩

/-- One piece after the other. -/
theorem Adds.append (h : Adds outer x y cs ts) (h' : Adds outer y z cs' ts')
    (hmark : ∀ rest, withoutMark rest = rest → withoutMark (cs' ++ rest) = cs' ++ rest) :
    Adds outer x z (cs ++ cs') (ts ++ ts') := by
  intro b ids e es page rest hready hes hfresh hrest
  obtain ⟨b₁, kids, hleads, hready, hkids, hfresh⟩ := h hready hes hfresh (hmark rest hrest)
  obtain ⟨b₂, kids', hleads', hready, hkids', hfresh⟩ := h' hready hes hfresh hrest
  refine ⟨b₂, kids', ?_, hready, by simp [hkids', hkids], hfresh⟩
  rw [List.append_assoc]
  exact hleads.trans hleads'

theorem Adds.forget (h : Adds outer x y cs ts) : Adds outer x true cs ts := by
  intro b ids e es page rest hready hes hfresh hrest
  obtain ⟨b', kids, hleads, h', hkids, -⟩ := h hready hes hfresh hrest
  exact ⟨b', kids, hleads, h', hkids, by simp⟩

/-- Such a tree behind layout. -/
theorem Stands.adds (h : Stands outer cs t) (hms : Margin ms) (hrules : rulesIn outer ≠ .other)
    (ht : t.isText = false) : Adds outer x false (ms ++ cs) [t] := by
  intro b ids e es page rest hready hes _ hrest
  obtain ⟨b₁, b₀, kids, hmargin, hstands, h₀, hkids⟩ :=
    hready.readMargin hms hes (fun _ => hrules) (cs ++ rest)
  obtain ⟨b', t', hleads, h', hbare⟩ := h hstands h₀ hes hrest
  rw [h₀.add_eq] at h'
  have ht' : t'.isText = false := by rw [← Tree.isText_bare, hbare, ht]
  have hkept : t'.isBlankText = false := by
    cases t' with
    | text => simp [Tree.isText] at ht'
    | element | comment | doctype => rfl
  refine ⟨b', _, ?_, h', ?_, fun _ => fresh_concat _ ht'⟩
  · rw [List.append_assoc]
    exact hmargin.trans hleads
  · rw [Tree.bareList_append, hkids.bareList_eq]
    simp [Tree.bareList, hkept, hbare]

/-! ### Pieces of a page -/

theorem adds_text (hms : Margin ms) (htakes : takesText outer = true) {s : String}
    (hshown : '\x00' ∉ s.toList) (hs : Text.allBlank s = false) :
    Adds outer false true (ms ++ writtenChars false s) [.text (Text.trimmed s)] := by
  intro b ids e es page rest h hes hfresh _
  have hblanks : takesBlanks outer = true := by rw [takesBlanks, htakes, Bool.true_or]
  obtain ⟨b₁, kids, hmargin, h₁, hkids⟩ := h.readBlanks hms
    (fun h hes hc => h.takeBlank hes hblanks hc) hes (writtenChars false s ++ rest)
  obtain ⟨b', hleads, h'⟩ := h₁.readText (fun hc => hshown (mem_of_mem_trim hc)) hes htakes
    (.inr (head?_trim_ne s.toList)) rest
  refine ⟨b', _, ?_, h', ?_, by simp⟩
  · rw [List.append_assoc]
    exact hmargin.trans hleads
  · rw [(hkids.fresh (hfresh rfl)).bareList_appendChars_trim hs, hkids.bareList_eq]

theorem stands_comment (hrules : rulesIn outer ≠ .other) {s : String}
    (hs : Enclosable (Text.trim s.toList)) :
    Stands outer (commentText s) (.comment (Node.paddedText s)) := by
  intro b b₀ ids e es page rest hb h hes _
  subst hes
  have hstep := h.takeComment (modeOf_mem_commentModes hrules) (Node.paddedText s)
  have h' := h.insertComment (Node.paddedText s)
  exact ⟨_, _, hb.leads (fun foreign => nextInMarkup_comment hs foreign rest)
    (by simp [commentText]; omega) rfl hstep h'.skipMark_eq, h', rfl⟩

theorem stands_void (hstands : standsIn outer tag (Attribute.plain as) = true)
    (has : settledAttributes .html as = true) :
    Stands outer (openingText tag (Attribute.plain as))
      (.element tag (Attribute.plain as) []) := by
  intro b b₀ ids e es page rest hb h hes _
  have hplain := settled_plain has
  obtain ⟨b', hstep, h'⟩ := h.insertElement hes hstands hplain
  refine ⟨b', _, hb.leads (fun foreign => nextInMarkup_opening (of_standsIn hstands).1
    hplain.legible foreign rest) (length_lt_opening ..) rfl hstep h'.skipMark_eq, h', ?_⟩
  rw [Tree.bare, Attribute.plain_of_sorted hplain.sorted]
  rfl

theorem stands_template (htakes : takesTemplate outer = true)
    (has : settledAttributes .html as = true) :
    Stands outer (openingText "template" (Attribute.plain as) ++ closingText "template")
      (.element "template" (Attribute.plain as) []) := by
  intro b b₀ ids e es page rest hb h hes _
  have hplain := settled_plain has
  obtain ⟨b', hleads, h'⟩ := hb.readTemplate h hes htakes hplain rest
  refine ⟨b', _, by simpa using hleads, h', ?_⟩
  rw [Tree.bare, Attribute.plain_of_sorted hplain.sorted]
  rfl

theorem stands_unmarked (hunmarked : unmarkedIn outer tag = true)
    (has : settledAttributes .html as = true) (hsole : soleText? ts = some cs)
    (hcs : settledContent tag cs = true) :
    Stands outer (openingText tag (Attribute.plain as) ++ (unmarkedText tag cs ++ closingText tag))
      (.element tag (Attribute.plain as) (Tree.bareList (Tree.paddedList ts))) := by
  intro b b₀ ids e es page rest hb h hes hrest
  have hplain := settled_plain has
  have hfirst : cs.head? ≠ some '\n' := by
    obtain ⟨-, rfl⟩ | ⟨s, -, rfl⟩ := of_soleText? hsole
    · simp
    · exact head?_trim_ne s.toList
  obtain ⟨b', hleads, h'⟩ := hb.readUnmarked h hes hunmarked hplain hcs hfirst hrest
  refine ⟨b', _, by simpa using hleads, h', ?_⟩
  rw [Tree.bare, Attribute.plain_of_sorted hplain.sorted, bareList_appendChars_soleText hsole]

/-- **An element stands where its tags do**, if what is between them is read as it is written. -/
theorem stands_element (hopens : opensIn outer tag (Attribute.plain as) = true)
    (has : settledAttributes (spaceIn outer tag) as = true)
    (h : Fills ((spaceIn outer tag, tag) :: outer) cs ts) :
    Stands outer (openingText tag (Attribute.plain as) ++ (cs ++ closingText tag))
      (.element tag (Attribute.plain as) ts) := by
  intro b b₀ ids e es page rest hb hready hes _
  have hplain := settled_plain has
  have hname := isTagName_of_opensIn hopens
  -- the tag opens the element, which is filled
  obtain ⟨b₁, hopen, hopened⟩ := hready.openElement hes hopens hplain
  have hfirst := hb.leads (fun foreign => nextInMarkup_opening hname hplain.legible foreign
    (cs ++ (closingText tag ++ rest))) (length_lt_opening ..) rfl hopen hopened.skipMark_eq
  have hinside : ({ space := spaceIn outer tag, tag, attributes :=
      Attribute.placed (spaceIn outer tag) (Attribute.plain as) } :: e :: es).map Open.label =
        (spaceIn outer tag, tag) :: outer := by
    rw [List.map_cons, hes]
    rfl
  obtain ⟨b₂, b₃, kids, hsecond, hstands, hfilled, hkids⟩ := h tag rest hopened hinside rfl
  -- the closing tag closes it
  obtain ⟨b', hclose, hclosed⟩ := hfilled.closeElement rfl hes hopens
  have hthird := hstands.leads (fun foreign => nextInMarkup_closing hname foreign rest)
    (length_lt_closing ..) rfl hclose hclosed.skipMark_eq
  refine ⟨b', _, ?_, hclosed, ?_⟩
  · have hleads := hfirst.trans (hsecond.trans hthird)
    simpa using hleads
  · rw [Open.tree, Tree.bare, hplain.plain_placed, hkids]

/-- There may be layout in front of the closing tag. -/
theorem Adds.fills (h : Adds outer false y cs ts) (hms : Margin ms)
    (hrules : ms ≠ [] → rulesIn outer ≠ .other) : Fills outer (cs ++ ms) ts := by
  intro b ids e es page tag rest hready hes hempty
  have hfresh : Fresh e.kids := hempty ▸ fresh_nil
  obtain ⟨b₁, kids, hfirst, hfilled, hkids, -⟩ := h hready hes (fun _ => hfresh)
    (withoutMark_margin hms (withoutMark_closing tag rest))
  obtain ⟨b₂, b₀, kids', hsecond, hstands, hspaced, hlayout⟩ :=
    hfilled.readMargin hms hes hrules (closingText tag ++ rest)
  refine ⟨b₂, b₀, kids', ?_, hstands, hspaced, ?_⟩
  · rw [List.append_assoc]
    exact hfirst.trans hsecond
  · rw [hlayout.bareList_eq, hkids, hempty]
    rfl

/-- What stands between two tags. -/
theorem fills_between (hts : Tree.settleIn outer false ts = true) (depth : Nat)
    (h : Adds outer false true (Tree.lines (depth + 1) false ts)
      (Tree.bareList (Tree.paddedList ts))) :
    Fills outer (Tree.between false ts (Tree.lines (depth + 1) false ts ++ '\n' :: margin depth))
      (Tree.bareList (Tree.paddedList ts)) := by
  have hsettles := Tree.settles_of_settleIn hts
  have hnone : Margin [] := by simp [Margin]
  unfold Tree.between
  split
  · rename_i hempty
    rw [bareList_paddedList, hempty]
    have hadds : Adds outer false true [] [] := adds_nil.forget
    exact hadds.fills hnone (by simp)
  · rename_i s hone
    rw [hone] at hsettles
    have hsettled := hsettles (.text s) (List.mem_singleton_self _)
    simp only [Tree.settles, Bool.and_eq_true, Bool.not_eq_true', List.contains_eq_mem,
      decide_eq_false_iff_not] at hsettled
    have hadds := adds_text hnone hsettled.1 hsettled.2 (not_blank_of_filter_eq hone)
    have hfills := hadds.fills hnone (by simp)
    rw [List.nil_append, List.append_nil] at hfills
    rw [bareList_paddedList, hone]
    exact hfills
  · rename_i hsome _
    obtain ⟨t, us, hus⟩ := List.exists_cons_of_ne_nil hsome
    have hsettled := hsettles t (by simp [hus])
    exact h.fills (margin_line depth) fun _ => Tree.rules_of_settles hsettled

mutual

/-- **Settled trees are read as they are written**: the lines of a tree, with the line end in front
of them, add the tree, up to layout, with its comments padded. -/
theorem adds_line (outer : List Label) (t : Tree) (ht : t.settles outer = true)
    (hkept : t.isBlankText = false) (depth : Nat) {textBefore : Bool}
    (hbefore : (textBefore && t.isText) = false) :
    Adds outer textBefore t.isText ('\n' :: t.line depth false) [t.padded.bare] := by
  have hmargin := margin_line depth
  have hrules := Tree.rules_of_settles ht
  cases t with
  | element tag as ts =>
      rw [Tree.padded, Tree.bare]
      rw [Tree.settles] at ht
      split at ht
      · -- an element without content, or a template
        rename_i hvoid
        obtain ⟨has, hempty⟩ := Bool.and_eq_true_iff.mp ht
        obtain rfl : ts = [] := by simpa using hempty
        rcases Bool.or_eq_true_iff.mp hvoid with htemplate | hstands
        · obtain ⟨rfl, htakes⟩ : tag = "template" ∧ takesTemplate outer = true := by
            simpa using htemplate
          have hstands := (stands_template htakes has).adds (x := textBefore) hmargin hrules rfl
          rw [Tree.line_of_escapes (by decide) (by decide)]
          simpa [Tree.between, Tree.paddedList, Tree.bareList, Tree.isText] using hstands
        · have hadds := (stands_void hstands has).adds (x := textBefore) hmargin hrules rfl
          rw [Tree.line, if_pos (of_standsIn hstands).2, List.append_nil]
          exact hadds
      split at ht
      · -- an element whose content is not markup
        rename_i hunmarked
        obtain ⟨has, hts⟩ := Bool.and_eq_true_iff.mp ht
        obtain ⟨cs, hsole, hcs⟩ := (Option.any_eq_true ..).mp hts
        have hadds := (stands_unmarked hunmarked has hsole hcs).adds (x := textBefore) hmargin
          hrules rfl
        rw [line_of_soleText (of_unmarkedIn hunmarked).2 hsole, List.append_assoc]
        exact hadds
      · simp only [Bool.and_eq_true, Bool.not_eq_true'] at ht
        obtain ⟨⟨⟨⟨hopens, has⟩, hvoid⟩, hescapes⟩, hts⟩ := ht
        have hinside := fills_between hts depth (adds_lines _ ts hts (depth + 1))
        have hadds := (stands_element hopens has hinside).adds (x := textBefore) hmargin hrules rfl
        rw [Tree.line_of_escapes hvoid hescapes]
        exact hadds
  | text s =>
      obtain rfl : textBefore = false := by simpa [Tree.isText] using hbefore
      simp only [Tree.settles, Bool.and_eq_true, Bool.not_eq_true', List.contains_eq_mem,
        decide_eq_false_iff_not] at ht
      exact adds_text hmargin ht.1 ht.2 hkept
  | comment s =>
      simp only [Tree.settles, Bool.and_eq_true, decide_eq_true_eq] at ht
      exact (stands_comment hrules ht.2).adds hmargin hrules rfl
  | doctype => simp [Tree.settles] at ht

/-- The lines of several trees. -/
theorem adds_lines (outer : List Label) (ts : List Tree) {afterText : Bool}
    (hts : Tree.settleIn outer afterText ts = true) (depth : Nat) :
    Adds outer afterText true (Tree.lines depth false ts)
      (Tree.bareList (Tree.paddedList ts)) := by
  cases ts with
  | nil => exact adds_nil.forget
  | cons t ts =>
      rw [Tree.settleIn] at hts
      cases hkept : t.isBlankText with
      | true =>
          rw [if_pos hkept] at hts
          simpa [Tree.lines, hkept, Tree.paddedList, Tree.bareList] using
            adds_lines outer ts hts depth
      | false =>
          rw [if_neg (by simp [hkept])] at hts
          simp only [Bool.and_eq_true, Bool.not_eq_true'] at hts
          obtain ⟨⟨ht, hbefore⟩, hts⟩ := hts
          have hfirst := adds_line outer t ht hkept depth hbefore
          have hrest := adds_lines outer ts hts depth
          have hboth := hfirst.append hrest fun rest => withoutMark_lines depth false ts
          simpa [Tree.lines, hkept, Tree.paddedList, Tree.bareList] using hboth

end

end Adds

end Builder

end Expectation.Html
