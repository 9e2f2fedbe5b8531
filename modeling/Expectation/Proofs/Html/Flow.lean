import Expectation.Proofs.Html.Elements
import Expectation.Proofs.Html.Layout

/-!
# Reading layout and texts

Text is read character by character and joined to the text in front of it, so the blanks of the
layout and a text of the page may come to stand in one tree.  Without its layout a page does not
show this, as long as no two texts of the page meet: the text is *fresh* where nothing but blanks
is in front of it.

Between the parts of a table characters are kept until the next tag.  If they are all blanks they
are put into the part then, so a builder that keeps blanks stands for one that has put them in.

## Main results

* `bareList_addText_of_blank`, `Fresh.bareList_addText`: what text adds to a page, up to layout.
* `Ready.readMargin`, `Ready.readText`: reading layout and texts.
-/

namespace Expectation.Html

/-! ## Adding text -/

/-- The trees in an open part with characters behind them. -/
def appendChars (kids : List Tree) (cs : List Char) : List Tree :=
  cs.foldl (fun kids c => addText kids c.toString) kids

/-- Text that comes next begins a text of its own, or joins blanks. -/
def Fresh (kids : List Tree) : Prop :=
  ∀ s, kids.getLast? = some (.text s) → Text.allBlank s = true

/-- Characters are added as one text. -/
theorem appendChars_eq (kids : List Tree) {cs : List Char} (hne : cs ≠ []) :
    appendChars kids cs = addText kids (String.ofList cs) := by
  obtain ⟨c, cs, rfl⟩ := List.exists_cons_of_ne_nil hne
  clear hne
  induction cs generalizing kids c with
  | nil => rfl
  | cons d cs ih =>
      have hwhole : c.toString ++ String.ofList (d :: cs) = String.ofList (c :: d :: cs) := by
        simp [String.ofList_cons, Char.toString]
      calc appendChars kids (c :: d :: cs) = appendChars (addText kids c.toString) (d :: cs) := rfl
        _ = addText (addText kids c.toString) (String.ofList (d :: cs)) := ih _ d
        _ = addText kids (String.ofList (c :: d :: cs)) := by rw [addText_addText, hwhole]

/-! ## What is left without layout -/

theorem allBlank_append (a b : String) :
    Text.allBlank (a ++ b) = (Text.allBlank a && Text.allBlank b) := by
  simp [Text.allBlank]

theorem forall_isBlank {s : String} (h : Text.allBlank s = true) :
    ∀ c ∈ s.toList, Text.isBlank c = true :=
  List.all_eq_true.mp h

/-- **Blank text is layout.** -/
theorem bareList_addText_of_blank (kids : List Tree) {text : String}
    (h : Text.allBlank text = true) :
    Tree.bareList (addText kids text) = Tree.bareList kids := by
  rcases addText_cases kids with ⟨front, s, rfl⟩ | hno
  · have htrim : Text.trimmed (s ++ text) = Text.trimmed s := by
      simp [Text.trimmed, Text.trim_append_right _ (forall_isBlank h)]
    cases hs : Text.allBlank s <;>
      simp [addText_concat, Tree.bareList, Tree.isBlankText, allBlank_append, h, hs, Tree.bare,
        htrim]
  · simp [addText_of_no_text hno, Tree.bareList, Tree.isBlankText, h]

theorem Fresh.addText_of_blank {kids : List Tree} (hkids : Fresh kids) {text : String}
    (h : Text.allBlank text = true) : Fresh (addText kids text) := by
  rcases addText_cases kids with ⟨front, s, rfl⟩ | hno
  · simpa [Fresh, addText_concat, allBlank_append, h] using hkids
  · simpa [Fresh, addText_of_no_text hno] using h

/-- **Other text is a text of its own.** -/
theorem Fresh.bareList_addText {kids : List Tree} (hkids : Fresh kids) {text : String}
    (h : Text.allBlank text = false) :
    Tree.bareList (addText kids text) = Tree.bareList kids ++ [.text (Text.trimmed text)] := by
  rcases addText_cases kids with ⟨front, s, rfl⟩ | hno
  · have hs : Text.allBlank s = true := by simpa [Fresh] using hkids
    have htrim : Text.trimmed (s ++ text) = Text.trimmed text := by
      simp [Text.trimmed, Text.trim_append_left (forall_isBlank hs)]
    simp [addText_concat, Tree.bareList, Tree.isBlankText, allBlank_append, h, hs, Tree.bare,
      htrim]
  · simp [addText_of_no_text hno, Tree.bareList, Tree.isBlankText, h, Tree.bare]

/-- Trees with nothing but layout behind them. -/
structure Spaced (kids kids' : List Tree) : Prop where
  bareList_eq : Tree.bareList kids' = Tree.bareList kids
  fresh : Fresh kids → Fresh kids'

theorem Spaced.refl (kids : List Tree) : Spaced kids kids := ⟨rfl, id⟩

theorem Spaced.trans {kids kids' kids'' : List Tree} (h : Spaced kids kids')
    (h' : Spaced kids' kids'') : Spaced kids kids'' :=
  ⟨h'.bareList_eq.trans h.bareList_eq, h'.fresh ∘ h.fresh⟩

theorem spaced_addText (kids : List Tree) {text : String} (h : Text.allBlank text = true) :
    Spaced kids (addText kids text) :=
  ⟨bareList_addText_of_blank kids h, fun hkids => hkids.addText_of_blank h⟩

/-- A trimmed text is the text that was trimmed. -/
theorem Fresh.bareList_appendChars_trim {kids : List Tree} (hkids : Fresh kids) {s : String}
    (h : Text.allBlank s = false) :
    Tree.bareList (appendChars kids (Text.trim s.toList)) =
      Tree.bareList kids ++ [.text (Text.trimmed s)] := by
  have htrimmed : Text.allBlank (String.ofList (Text.trim s.toList)) = false := by
    rw [← Text.trimmed, Text.allBlank_trimmed, h]
  have hne : Text.trim s.toList ≠ [] := by
    intro hnil
    simp [hnil, Text.allBlank] at htrimmed
  rw [appendChars_eq kids hne, hkids.bareList_addText htrimmed]
  simp [Text.trimmed]

/-- The characters of the layout. -/
def Margin (cs : List Char) : Prop := ∀ c ∈ cs, c = ' ' ∨ c = '\n'

theorem allBlank_of_margin {c : Char} (h : c = ' ' ∨ c = '\n') :
    Text.allBlank c.toString = true := by
  rcases h with rfl | rfl <;> decide

theorem margin_break : Margin ['\n'] := by simp [Margin]

theorem margin_margin (depth : Nat) : Margin (margin depth) :=
  fun _ hc => .inl (List.eq_of_mem_replicate hc)

/-- The end of a line and the front of the next one. -/
theorem margin_line (depth : Nat) : Margin ('\n' :: margin depth) :=
  List.forall_mem_cons.mpr ⟨.inr rfl, margin_margin depth⟩

namespace Builder

section Ready

variable {b : Builder} {mode : Mode} {ids : List Nat} {e : Open} {es : List Open} {page : Frame}
  {outer : List Label}

/-! ## Single characters -/

theorem nextInMarkup_margin {c : Char} (hc : c = ' ' ∨ c = '\n') (foreign : Bool)
    (rest : List Char) : nextInMarkup foreign (c :: rest) = ([.char c], rest) := by
  rcases hc with rfl | rfl <;> rfl

/-- A line end may be left out. -/
theorem accept_skipped (h : b.skipNewline = true) : b.accept (.char '\n') = b.unskipped := by
  simp [accept, h, unskipped]

theorem accept_char {c : Char} (h : b.skipNewline = false ∨ c ≠ '\n') :
    b.accept (.char c) = rounds (4 * b.opened.length + 16) b.unskipped (.char c) := by
  have hkept : (b.skipNewline && decide (c = '\n')) = false := by
    rcases h with h | h <;> simp [h]
  simp [accept, hkept, unskipped]

/-- A step that takes a character. -/
theorem Ready.leads_char (h : b.Ready mode ids es page) {cs rest : List Char} {c : Char}
    (hnext : ∀ foreign, nextInMarkup foreign cs = ([.char c], rest))
    (hlength : rest.length < cs.length) (hc : b.skipNewline = false ∨ c ≠ '\n') {b' : Builder}
    (hstep : b.unskipped.step (.char c) = .done b') (hmark : b'.skipMark = false) :
    Leads b cs b' rest :=
  leads_of_accept h.textMode_eq h.skipMark_eq hnext hlength (by simp)
    (by rw [accept_char hc, rounds_done hstep]) hmark

/-! ## Layout -/

/-- **Layout that becomes text at once.** -/
theorem Ready.readBlanks {ms : List Char} (hms : Margin ms)
    (hstep : ∀ {b : Builder} {e : Open} {c : Char}, b.Ready mode ids (e :: es) page →
      (e :: es).map Open.label = outer → (c = ' ' ∨ c = '\n') →
        ∃ b', b.step (.char c) = .done b' ∧ b'.Ready mode ids (e.addText c.toString :: es) page)
    (h : b.Ready mode ids (e :: es) page) (hes : (e :: es).map Open.label = outer)
    (rest : List Char) :
    ∃ b' kids, Leads b (ms ++ rest) b' rest ∧ b'.Ready mode ids ({ e with kids } :: es) page ∧
      Spaced e.kids kids := by
  induction ms generalizing b e with
  | nil => exact ⟨b, e.kids, .refl b rest, h, .refl _⟩
  | cons c ms ih =>
      obtain ⟨hc, hrest⟩ := List.forall_mem_cons.mp hms
      have hnext := fun foreign => nextInMarkup_margin hc foreign (ms ++ rest)
      by_cases hskip : b.skipNewline = false ∨ c ≠ '\n'
      · obtain ⟨b₁, hone, h₁⟩ := hstep h.unskipped hes hc
        have hfirst := h.leads_char hnext (by simp) hskip hone h₁.skipMark_eq
        rw [h.addText_eq] at h₁
        obtain ⟨b', kids, hleads, h', hkids⟩ := ih hrest h₁ hes
        exact ⟨b', kids, hfirst.trans hleads, h',
          (spaced_addText e.kids (allBlank_of_margin hc)).trans hkids⟩
      · -- the line end is left out
        obtain ⟨hskips, rfl⟩ : b.skipNewline = true ∧ c = '\n' := by simpa using hskip
        have hfirst := leads_of_accept h.textMode_eq h.skipMark_eq hnext (by simp) (by simp)
          (accept_skipped hskips) h.unskipped.skipMark_eq
        obtain ⟨b', kids, hleads, h', hkids⟩ := ih hrest h.unskipped hes
        exact ⟨b', kids, hfirst.trans hleads, h', hkids⟩

/-! ### Between the parts of a table -/

/-- A builder that keeps characters until the next tag. -/
def collecting (b : Builder) (cs : List Char) : Builder :=
  { b with skipNewline := false, returnMode := b.mode, mode := .inTableText, pending := cs.reverse }

/-- The builder that has put them in. -/
def placing (b : Builder) (cs : List Char) : Builder :=
  (cs.foldl Builder.insertChar { collecting b cs with pending := [] }).withMode b.mode

theorem Ready.insertChars (h : b.Ready mode ids (e :: es) page) {ms : List Char} (hms : Margin ms) :
    ∃ kids, (ms.foldl Builder.insertChar b).Ready mode ids ({ e with kids } :: es) page ∧
      Spaced e.kids kids := by
  induction ms generalizing b e with
  | nil => exact ⟨e.kids, h, .refl _⟩
  | cons c ms ih =>
      obtain ⟨hc, hrest⟩ := List.forall_mem_cons.mp hms
      have hinserted := h.insertChar c
      rw [h.addText_eq] at hinserted
      obtain ⟨kids, h', hkids⟩ := ih hinserted hrest
      exact ⟨kids, h', (spaced_addText e.kids (allBlank_of_margin hc)).trans hkids⟩

theorem Ready.placing (h : b.Ready mode ids (e :: es) page) {ms : List Char} (hms : Margin ms) :
    ∃ kids, (b.placing ms).Ready mode ids ({ e with kids } :: es) page ∧ Spaced e.kids kids := by
  have hinside : { collecting b ms with pending := [] }.Ready .inTableText ids (e :: es) page :=
    { h with mode_eq := rfl }
  obtain ⟨kids, h', hkids⟩ := hinside.insertChars hms
  exact ⟨kids, h.mode_eq ▸ h'.withMode b.mode, hkids⟩

/-- What happens to a token while characters are kept. -/
theorem Shown.step_collecting (h : b.Shown ids (e :: es) page) (hspace : e.space = .html)
    (cs : List Char) (token : Token) :
    (b.collecting cs).step token = (b.collecting cs).tableTextStep token := by
  have hshown : (b.collecting cs).Shown ids (e :: es) page := { h with }
  rw [hshown.step_html hspace]
  rfl

/-- **A builder that keeps blanks stands for the one that has put them in.** -/
theorem Shown.standsFor_placing (h : b.Shown ids (e :: es) page) (hspace : e.space = .html)
    {ms : List Char} (hms : Margin ms) : (b.collecting ms).StandsFor (b.placing ms) where
  textMode_eq := h.textMode_eq
  skipMark_eq := h.skipMark_eq
  accept_eq {token b'} htoken hstep := by
    have hfillers : ms.all isFiller = true := by
      refine List.all_eq_true.mpr fun c hc => ?_
      rcases hms c hc with rfl | rfl <;> decide
    have hplaced : (b.collecting ms).placePending.withMode b.mode = b.placing ms := by
      simp only [placePending, collecting, List.reverse_reverse, hfillers, if_true]
      rfl
    have hagain : (b.collecting ms).step token = .again (b.placing ms) := by
      rw [h.step_collecting hspace, ← hplaced]
      cases token with
      | opening | closing | comment => rfl
      | char | doctype | fault | finish => simp [isMarkup] at htoken
    rw [accept_markup _ htoken]
    exact (rounds_again hagain _).trans (rounds_done hstep _)

/-- More blanks are kept as well. -/
theorem Shown.leads_collecting (h : b.Shown ids (e :: es) page) (hspace : e.space = .html)
    {ms : List Char} (hms : Margin ms) (cs rest : List Char) :
    Leads (b.collecting cs) (ms ++ rest) (b.collecting (cs ++ ms)) rest := by
  induction ms generalizing cs with
  | nil =>
      rw [List.append_nil]
      exact .refl _ _
  | cons c ms ih =>
      obtain ⟨hc, hrest⟩ := List.forall_mem_cons.mp hms
      have hshown : c ≠ '\x00' := by
        rcases hc with rfl | rfl <;> decide
      have hstep : (b.collecting cs).step (.char c) = .done (b.collecting (cs ++ [c])) := by
        rw [h.step_collecting hspace]
        simp [tableTextStep, hshown, collecting]
      have haccept : (b.collecting cs).accept (.char c) = b.collecting (cs ++ [c]) :=
        (accept_char (.inl rfl)).trans (rounds_done hstep _)
      have hfirst := leads_of_accept (b := b.collecting cs) h.textMode_eq h.skipMark_eq
        (fun foreign => nextInMarkup_margin hc foreign (ms ++ rest)) (by simp) (by simp) haccept
        h.skipMark_eq
      have hmore := ih hrest (cs ++ [c])
      rw [List.append_assoc] at hmore
      exact hfirst.trans hmore

/-- **Layout between the parts of a table** is put in with the next tag. -/
theorem Ready.readKept {ms : List Char} (hms : Margin ms)
    (h : b.Ready (modeOf outer) ids (e :: es) page) (hes : (e :: es).map Open.label = outer)
    (hrules : rulesIn outer = .parts) (rest : List Char) :
    ∃ b₁ b₀ kids, Leads b (ms ++ rest) b₁ rest ∧ b₁.StandsFor b₀ ∧
      b₀.Ready (modeOf outer) ids ({ e with kids } :: es) page ∧ Spaced e.kids kids := by
  obtain ⟨-, hmode, hinnermost⟩ := of_rulesIn hrules (by decide) (by decide)
  have hinside : isInnermost tablePartTags ((e :: es).map Open.label) = true := hes ▸ hinnermost rfl
  have hspace : e.space = .html := space_of_isInnermost hinside
  induction ms generalizing b with
  | nil => exact ⟨b, b.unskipped, e.kids, .refl b rest, h.standsFor, h.unskipped, .refl _⟩
  | cons c ms ih =>
      obtain ⟨hc, hrest⟩ := List.forall_mem_cons.mp hms
      have hnext := fun foreign => nextInMarkup_margin hc foreign (ms ++ rest)
      by_cases hskip : b.skipNewline = false ∨ c ≠ '\n'
      · -- the first character that is kept
        have hcurrent : b.unskipped.current tablePartTags = true :=
          (h.unskipped.current_eq tablePartTags).trans hinside
        have hagain : b.unskipped.step (.char c) = .again (b.collecting []) := by
          rw [h.unskipped.step_html hspace,
            modeStep_parts b.unskipped (h.unskipped.mode_eq ▸ hmode) trivial]
          simp only [tableStep, tableChar, hcurrent, if_true]
          rfl
        have hshown : c ≠ '\x00' := by
          rcases hc with rfl | rfl <;> decide
        have hstep : (b.collecting []).step (.char c) = .done (b.collecting [c]) := by
          rw [h.step_collecting hspace]
          simp [tableTextStep, hshown, collecting]
        have haccept : b.accept (.char c) = b.collecting [c] := by
          rw [accept_char hskip]
          exact (rounds_again hagain _).trans (rounds_done hstep _)
        have hfirst := leads_of_accept h.textMode_eq h.skipMark_eq hnext (by simp) (by simp)
          haccept h.skipMark_eq
        obtain ⟨kids, h₀, hkids⟩ := h.placing hms
        exact ⟨_, _, kids, hfirst.trans (h.leads_collecting hspace hrest [c] rest),
          h.standsFor_placing hspace hms, h₀, hkids⟩
      · obtain ⟨hskips, rfl⟩ : b.skipNewline = true ∧ c = '\n' := by simpa using hskip
        have hfirst := leads_of_accept h.textMode_eq h.skipMark_eq hnext (by simp) (by simp)
          (accept_skipped hskips) h.unskipped.skipMark_eq
        obtain ⟨b₁, b₀, kids, hleads, hstands, h₀, hkids⟩ := ih hrest h.unskipped
        exact ⟨b₁, b₀, kids, hfirst.trans hleads, hstands, h₀, hkids⟩

/-- **The layout in front of a tag or a comment**, by whatever rules. -/
theorem Ready.readMargin {ms : List Char} (hms : Margin ms)
    (h : b.Ready (modeOf outer) ids (e :: es) page) (hes : (e :: es).map Open.label = outer)
    (hrules : ms ≠ [] → rulesIn outer ≠ .other) (rest : List Char) :
    ∃ b₁ b₀ kids, Leads b (ms ++ rest) b₁ rest ∧ b₁.StandsFor b₀ ∧
      b₀.Ready (modeOf outer) ids ({ e with kids } :: es) page ∧ Spaced e.kids kids := by
  by_cases hnone : ms = []
  · subst hnone
    exact ⟨b, b.unskipped, e.kids, .refl b rest, h.standsFor, h.unskipped, .refl _⟩
  have hknown := hrules hnone
  by_cases hparts : rulesIn outer = .parts
  · exact h.readKept hms hes hparts rest
  · have htakes : takesBlanks outer = true := by
      rw [takesBlanks, takesText]
      cases hcase : rulesIn outer <;> simp_all
    obtain ⟨b₁, kids, hleads, h₁, hkids⟩ :=
      h.readBlanks hms (fun h hes hc => h.takeBlank hes htakes hc) hes rest
    exact ⟨b₁, b₁.unskipped, kids, hleads, h₁.standsFor, h₁.unskipped, hkids⟩

/-! ## Texts -/

/-- **An escaped text is read as it was.** -/
theorem Ready.readText {cs : List Char} (hcs : '\x00' ∉ cs)
    (h : b.Ready (modeOf outer) ids (e :: es) page) (hes : (e :: es).map Open.label = outer)
    (htakes : takesText outer = true) (hfirst : b.skipNewline = false ∨ cs.head? ≠ some '\n')
    (rest : List Char) :
    ∃ b', Leads b (escapeText ['&', '<', '>'] cs ++ rest) b' rest ∧
      b'.Ready (modeOf outer) ids ({ e with kids := appendChars e.kids cs } :: es) page := by
  induction cs generalizing b e with
  | nil => exact ⟨b, .refl b rest, h⟩
  | cons c cs ih =>
      obtain ⟨hc, hcs⟩ : '\x00' ≠ c ∧ '\x00' ∉ cs := by simpa using hcs
      obtain ⟨front, hne, htext, hnext⟩ := nextInMarkup_escaped c cs
      have hlength : 0 < front.length := List.length_pos_iff.mpr hne
      obtain ⟨b₁, hstep, h₁, hkept⟩ := h.unskipped.takeChar hes htakes hc.symm
      have hone : Leads b (front ++ (escapeText ['&', '<', '>'] cs ++ rest)) b₁
          (escapeText ['&', '<', '>'] cs ++ rest) :=
        h.leads_char (fun foreign => hnext foreign _)
          (by simp only [List.length_append]; omega) (by simpa using hfirst) hstep h₁.skipMark_eq
      rw [h.addText_eq] at h₁
      obtain ⟨b', hrest, h'⟩ := ih hcs h₁ hes (.inl hkept)
      rw [htext, List.append_assoc]
      exact ⟨b', hone.trans hrest, h'⟩

end Ready

end Builder

end Expectation.Html
