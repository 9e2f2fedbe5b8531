import Expectation.Proofs.Html.NameRules

/-!
# The names in the page that a text denotes

The rules of the modes other than the body mostly hand their tokens on to those of
the body.  With them every token keeps the names of the unfinished page unmarked, and
so does a whole text.

## Main results

* `Builder.Unmarked.modeStep`: the rules of every mode.
* `Builder.Unmarked.read`: all tokens of a text.
* `Tree.unmarked_ofText`: the names in the page that a text denotes.
-/

namespace Expectation.Html

/-! ## Parts of a finished page -/

/-- The names in a part of a page are unmarked. -/
inductive Tree.Unmarked : Tree → Prop
  | element {tag : String} {attributes : List Attribute} {children : List Tree}
      (htag : Html.Unmarked tag) (hattributes : ∀ a ∈ attributes, Html.Unmarked a.name)
      (hchildren : ∀ t ∈ children, t.Unmarked) :
      Tree.Unmarked (.element tag attributes children)
  | text {t : String} : Tree.Unmarked (.text t)
  | comment {t : String} : Tree.Unmarked (.comment t)
  | doctype {name : String} (h : Html.Unmarked name) : Tree.Unmarked (.doctype name)

theorem Store.Unmarked.trees {s : Store} (h : s.Unmarked) (fuel : Nat) (is : List Nat) :
    ∀ t ∈ s.trees fuel is, t.Unmarked := by
  induction fuel generalizing is with
  | zero => exact fun t ht => absurd ht List.not_mem_nil
  | succ fuel ih =>
      cases is with
      | nil => exact fun t ht => absurd ht List.not_mem_nil
      | cons i rest =>
          intro t ht
          rcases List.mem_append.mp ht with ht | ht
          · split at ht
            · next hcell =>
              rw [List.mem_singleton.mp ht]
              exact .element (h i _ hcell).1 (h i _ hcell).2 (ih _)
            · rw [List.mem_singleton.mp ht]
              exact .text
            · rw [List.mem_singleton.mp ht]
              exact .comment
            · next hcell =>
              rw [List.mem_singleton.mp ht]
              exact .doctype (h i _ hcell)
            · exact absurd ht List.not_mem_nil
          · exact ih rest t ht

namespace Builder.Unmarked

variable {b : Builder} {tag : Tag}

/-! ## Tables -/

@[grind ←]
theorem foster (h : b.Unmarked) {token : Token} (htoken : token.Unmarked) :
    (b.foster token).Unmarked := by
  have hstep := bodyStep (b := { b with fostering := true }) ⟨h.store, h.formatting⟩ htoken
  unfold Builder.foster
  split
  · next heq =>
    rw [heq] at hstep
    exact ⟨hstep.store, hstep.formatting⟩
  · next heq =>
    rw [heq] at hstep
    exact ⟨hstep.store, hstep.formatting⟩

@[grind ←]
theorem tableChar (h : b.Unmarked) (c : Char) : (b.tableChar c).Unmarked := by
  have htoken : (Token.char c).Unmarked := trivial
  have hfoster := h.foster htoken
  grind [Builder.tableChar]

theorem fosterChar (h : b.Unmarked) (c : Char) : (b.fosterChar c).Unmarked := by
  have hchar := bodyChar (b := { b with fostering := true }) ⟨h.store, h.formatting⟩ c
  exact ⟨hchar.store, hchar.formatting⟩

theorem foldl {place : Builder → Char → Builder}
    (hplace : ∀ {b : Builder}, b.Unmarked → ∀ c, (place b c).Unmarked) (h : b.Unmarked)
    (cs : List Char) : (cs.foldl place b).Unmarked := by
  induction cs generalizing b with
  | nil => exact h
  | cons c cs ih => exact ih (hplace h c)

@[grind ←]
theorem placePending (h : b.Unmarked) : b.placePending.Unmarked := by
  have hstart : Builder.Unmarked { b with pending := [] } := ⟨h.store, h.formatting⟩
  unfold Builder.placePending
  dsimp only
  split
  · exact foldl (fun h c => h.insertChar c) hstart _
  · exact foldl (fun h c => h.fosterChar c) hstart _

@[grind ←]
theorem tableTextStep (h : b.Unmarked) (token : Token) : (b.tableTextStep token).Unmarked := by
  cases token <;> grind [Builder.tableTextStep]

theorem tableTag? (h : b.Unmarked) (htag : tag.Unmarked) {outcome : Outcome}
    (hfound : b.tableTag? tag = some outcome) : outcome.Unmarked := by
  grind [Builder.tableTag?]

@[grind ←]
theorem tableTagElse (h : b.Unmarked) (htag : tag.Unmarked) {other : Outcome}
    (hother : other.Unmarked) : ((b.tableTag? tag).getD other).Unmarked := by
  cases hfound : b.tableTag? tag with
  | none => exact hother
  | some outcome => exact h.tableTag? htag hfound

@[grind ←]
theorem tableStep (h : b.Unmarked) {token : Token} (htoken : token.Unmarked) :
    (b.tableStep token).Unmarked := by
  cases token <;> grind [Builder.tableStep, Token.Unmarked]

@[grind ←]
theorem closeCaption (h : b.Unmarked) : b.closeCaption.Unmarked := by
  grind [Builder.closeCaption]

@[grind ←]
theorem captionStep (h : b.Unmarked) {token : Token} (htoken : token.Unmarked) :
    (b.captionStep token).Unmarked := by
  cases token <;> grind [Builder.captionStep, Token.Unmarked]

@[grind ←]
theorem columnGroupStep (h : b.Unmarked) {token : Token} (htoken : token.Unmarked) :
    (b.columnGroupStep token).Unmarked := by
  cases token <;> grind [Builder.columnGroupStep, Token.Unmarked]

@[grind ←]
theorem rowGroupStep (h : b.Unmarked) {token : Token} (htoken : token.Unmarked) :
    (b.rowGroupStep token).Unmarked := by
  cases token <;> grind [Builder.rowGroupStep, Token.Unmarked]

@[grind ←]
theorem rowStep (h : b.Unmarked) {token : Token} (htoken : token.Unmarked) :
    (b.rowStep token).Unmarked := by
  cases token <;> grind [Builder.rowStep, Token.Unmarked]

@[grind ←]
theorem closeCell (h : b.Unmarked) : b.closeCell.Unmarked := by
  grind [Builder.closeCell]

@[grind ←]
theorem cellStep (h : b.Unmarked) {token : Token} (htoken : token.Unmarked) :
    (b.cellStep token).Unmarked := by
  cases token <;> grind [Builder.cellStep, Token.Unmarked]

@[grind ←]
theorem closeSelect (h : b.Unmarked) : b.closeSelect.Unmarked := by
  grind [Builder.closeSelect]

@[grind ←]
theorem closeOption (h : b.Unmarked) : b.closeOption.Unmarked := by
  grind [Builder.closeOption]

@[grind ←]
theorem closeOptions (h : b.Unmarked) : b.closeOptions.Unmarked := by
  grind [Builder.closeOptions]

@[grind ←]
theorem selectStep (h : b.Unmarked) {token : Token} (htoken : token.Unmarked) :
    (b.selectStep token).Unmarked := by
  cases token <;> grind [Builder.selectStep, Token.Unmarked]

@[grind ←]
theorem selectInTableStep (h : b.Unmarked) {token : Token} (htoken : token.Unmarked) :
    (b.selectInTableStep token).Unmarked := by
  cases token <;> grind [Builder.selectInTableStep, Token.Unmarked]

/-! ## Templates, frames and what follows the body -/

@[grind ←]
theorem templateStep (h : b.Unmarked) {token : Token} (htoken : token.Unmarked) :
    (b.templateStep token).Unmarked := by
  cases token <;> grind [Builder.templateStep, Token.Unmarked]

@[grind ←]
theorem afterBodyStep (h : b.Unmarked) {token : Token} (htoken : token.Unmarked) :
    (b.afterBodyStep token).Unmarked := by
  cases token <;> grind [Builder.afterBodyStep, Token.Unmarked]

@[grind ←]
theorem afterAfterBodyStep (h : b.Unmarked) {token : Token} (htoken : token.Unmarked) :
    (b.afterAfterBodyStep token).Unmarked := by
  cases token <;> grind [Builder.afterAfterBodyStep, Token.Unmarked]

@[grind ←]
theorem framesetStep (h : b.Unmarked) {token : Token} (htoken : token.Unmarked) :
    (b.framesetStep token).Unmarked := by
  cases token <;> grind [Builder.framesetStep, Token.Unmarked]

@[grind ←]
theorem afterFramesetStep (h : b.Unmarked) {token : Token} (htoken : token.Unmarked) :
    (b.afterFramesetStep token).Unmarked := by
  cases token <;> grind [Builder.afterFramesetStep, Token.Unmarked]

@[grind ←]
theorem afterAfterFramesetStep (h : b.Unmarked) {token : Token} (htoken : token.Unmarked) :
    (b.afterAfterFramesetStep token).Unmarked := by
  cases token <;> grind [Builder.afterAfterFramesetStep, Token.Unmarked]

/-! ## Every mode -/

/-- **The rules of every mode keep names unmarked.** -/
theorem modeStep (h : b.Unmarked) {token : Token} (htoken : token.Unmarked) :
    (b.modeStep token).Unmarked := by
  unfold Builder.modeStep
  split
  all_goals grind

/-! ## Drawings and formulas -/

@[grind ←]
theorem openForeign (h : b.Unmarked) (htag : tag.Unmarked) : (b.openForeign tag).Unmarked := by
  have hsvg : ∀ n ∈ svgTags, '_' ∉ n.toList :=
    Text.Spelled.forall (p := fun cs => '_' ∉ cs) (by unfold svgTags; repeat' constructor)
      (by decide)
  unfold Builder.openForeign
  split
  · exact h.insertForeign .svg (htag.rename (unmarked_respell hsvg htag.1))
  · exact h.insertForeign _ htag
  · exact h

@[grind ←]
theorem leaveForeign (h : b.Unmarked) : b.leaveForeign.Unmarked := by
  grind [Builder.leaveForeign]

theorem foreignStep {page : Builder → Token → Outcome}
    (hpage : ∀ {b : Builder}, b.Unmarked → ∀ {token : Token}, token.Unmarked →
      (page b token).Unmarked)
    (h : b.Unmarked) {token : Token} (htoken : token.Unmarked) :
    (b.foreignStep page token).Unmarked := by
  have hleave := hpage h.leaveForeign htoken
  have hstay := hpage h htoken
  cases token <;> grind [Builder.foreignStep, Token.Unmarked]

/-! ## Whole texts -/

theorem rounds (fuel : Nat) (h : b.Unmarked) {token : Token} (htoken : token.Unmarked) :
    (Builder.rounds fuel b token).Unmarked := by
  induction fuel generalizing b with
  | zero => exact h
  | succ fuel ih =>
      have hstep : (if b.isForeign token then b.foreignStep Builder.modeStep token
          else b.modeStep token).Unmarked := by
        split
        · exact foreignStep (fun h _ ht => h.modeStep ht) h htoken
        · exact h.modeStep htoken
      rw [Builder.rounds]
      split
      · next heq =>
        rw [heq] at hstep
        exact hstep
      · next heq =>
        rw [heq] at hstep
        exact ih hstep

theorem accept (h : b.Unmarked) {token : Token} (htoken : token.Unmarked) :
    (b.accept token).Unmarked := by
  have hstart : Builder.Unmarked { b with skipNewline := false } := ⟨h.store, h.formatting⟩
  unfold Builder.accept
  dsimp only
  split
  · exact hstart.placeDoctype htoken
  · exact hstart
  · split
    · exact hstart
    · exact hstart.rounds _ htoken
  · exact hstart.rounds _ htoken

/-- **Reading a text keeps names unmarked.** -/
theorem read (fuel : Nat) (h : b.Unmarked) (cs : List Char) :
    (Builder.read fuel b cs).Unmarked := by
  induction fuel generalizing b cs with
  | zero => exact h
  | succ fuel ih =>
      have htokens : ∀ (tokens : List Token) {b : Builder}, b.Unmarked →
          (∀ token ∈ tokens, token.Unmarked) → (tokens.foldl Builder.accept b).Unmarked := by
        intro tokens
        induction tokens with
        | nil => exact fun h _ => h
        | cons token tokens ih =>
            intro b h hall
            obtain ⟨htoken, hrest⟩ := List.forall_mem_cons.mp hall
            exact ih (h.accept htoken) hrest
      have hplaced := htokens (Token.next b.textMode b.inForeign cs).1
        (b := { b with textMode := .markup, skipMark := false }) ⟨h.store, h.formatting⟩
        fun _ => unmarked_next
      rw [Builder.read]
      dsimp only
      split
      · exact hplaced
      · exact ih hplaced _

end Builder.Unmarked

/-- **The names in the page that a text denotes are unmarked**, whatever the text. -/
theorem Tree.unmarked_ofText (text : String) : ∀ t ∈ Tree.ofText text, t.Unmarked := by
  have hstart : Builder.Unmarked {} := ⟨Store.Unmarked.empty, fun _ h => absurd h List.not_mem_nil⟩
  exact (hstart.read _ (pageText text)).store.trees _ _

end Expectation.Html
