import Expectation.Proofs.Html.SelfAdmission
import Expectation.Proofs.Json.Likeness

/-!
# Pages that match blank by blank match without blanks

Where blanks count, texts are compared as they are, and a text of blanks is a child like any
other.  Where they do not count, texts are compared by their words and texts of blanks are
passed over, on either side and whatever the other side has there.  For literal pages the
second way asks for less.  Children that match blank by blank count alike: a text matches only
a text, and then both are blank or neither is.  So partners go together or stay together, and
those that stay are still in their places.

## Main results

* `significant_collapsing_of_admits`: children that match count alike without blanks.
* `admits_collapsing`: what a literal page admits, it admits without blanks.
* `compare_collapsing_eq_nil`: the same for the comparison.
-/

namespace Expectation.Html

variable {o : Options}

/-- The options with blanks that do not count. -/
def Options.collapsing (o : Options) : Options := { o with preserveWhitespace := false }

theorem Options.KeepsOrder.collapsing (ho : o.KeepsOrder) : o.collapsing.KeepsOrder := ho

/-- Where blanks count, texts are admitted as they are. -/
theorem text_eq_of_admitsText (hblanks : o.preserveWhitespace = true) {s text : String}
    (h : (Value.literal s).AdmitsText o text) : s = text := by
  simpa [Value.AdmitsText, comparedText, hblanks] using h

/-! ## Children that count -/

/-- What counts without blanks counts with them. -/
theorem significant_of_collapsing {n : Node} (h : n.significant o.collapsing = true) :
    n.significant o = true := by
  cases n with
  | text path v =>
      have hblank : v.isBlank = false := by simpa [Node.significant, Options.collapsing] using h
      simp [Node.significant, hblank]
  | _ => exact h

/-- **Children that match count alike without blanks**, if they are literal. -/
theorem significant_collapsing_of_admits (hblanks : o.preserveWhitespace = true) {c d : Node}
    (hc : c.Literal) (hd : d.Literal) (hcounts : c.significant o = true)
    (hcounts' : d.significant o = true) (h : Admits o c d) :
    c.significant o.collapsing = d.significant o.collapsing := by
  cases h with
  | ignoredElement h => simp [Node.significant, h] at hcounts
  | ignoredText => cases hc
  | text h =>
      cases hc
      cases hd
      rw [text_eq_of_admitsText hblanks h]
      rfl
  | comment => rfl
  | doctype => rfl
  | element => exact hcounts.trans hcounts'.symm

/-- The children that count without blanks are among those that count with them. -/
theorem filter_collapsing (children : List Node) :
    children.filter (Node.significant o.collapsing) =
      (children.filter (Node.significant o)).filter (Node.significant o.collapsing) := by
  rw [List.filter_filter]
  refine List.filter_congr fun c _ => ?_
  cases hc : c.significant o.collapsing with
  | true => simp [significant_of_collapsing hc]
  | false => rfl

/-! ## Whole pages -/

/-- **What a literal page admits where blanks count, it admits where they do not.** -/
theorem admits_collapsing (hblanks : o.preserveWhitespace = true) {expected actual : Node}
    (hexpected : expected.Literal) (hactual : actual.Literal) (h : Admits o expected actual) :
    Admits o.collapsing expected actual := by
  induction h with
  | ignoredElement h => exact .ignoredElement h
  | ignoredText => exact .ignoredText
  | text h =>
      cases hexpected
      obtain rfl := text_eq_of_admitsText hblanks h
      exact .text rfl
  | comment h => exact .comment h
  | doctype h => exact .doctype h
  | @element path other tag otherTag attributes others children otherChildren htag hattributes
      hadded hlength hchildren ih =>
      obtain ⟨-, hvalues, hliteral⟩ := hexpected
      obtain ⟨-, -, hliteral'⟩ := hactual
      have hpartners : List.Forall₂
          (fun c d => Admits o.collapsing c d ∧
            (c.significant o.collapsing = true ↔ d.significant o.collapsing = true))
          (children.filter (Node.significant o)) (otherChildren.filter (Node.significant o)) := by
        refine Json.forall₂_iff_getElem?.mpr ⟨hlength, fun i c d hc hd => ?_⟩
        obtain ⟨hc', hcounts⟩ := List.mem_filter.mp (List.mem_of_getElem? hc)
        obtain ⟨hd', hcounts'⟩ := List.mem_filter.mp (List.mem_of_getElem? hd)
        refine ⟨ih i c d hc hd (hliteral c hc') (hliteral' d hd'), ?_⟩
        rw [significant_collapsing_of_admits hblanks (hliteral c hc') (hliteral' d hd') hcounts
          hcounts' (hchildren i c d hc hd)]
      obtain ⟨hlength', hpairs⟩ := Json.forall₂_iff_getElem?.mp
        (List.rel_filter (fun _ _ hcd => hcd.2) hpartners)
      rw [← filter_collapsing, ← filter_collapsing] at hlength' hpairs
      refine .element htag (fun name v hv hcounts hne => ?_) hadded hlength'
        fun i c d hc hd => (hpairs i c d hc hd).1
      obtain ⟨w, hw, hadmits⟩ := hattributes name v hv hcounts hne
      obtain ⟨s, rfl⟩ := hvalues name v hv
      exact ⟨w, hw, hadmits⟩

/-- **Pages that match blank by blank match without blanks.**  With the order of children kept,
literal pages between which nothing is reported where blanks count are pages between which
nothing is reported where they do not. -/
theorem compare_collapsing_eq_nil (ho : o.KeepsOrder) (hblanks : o.preserveWhitespace = true)
    {expected actual : Node} (hexpected : expected.Literal) (hactual : actual.Literal)
    (h : compare o expected actual = []) :
    compare { o with preserveWhitespace := false } expected actual = [] :=
  compare_eq_nil_of_admits ho.collapsing
    (admits_collapsing hblanks hexpected hactual (admits_of_compare_eq_nil ho h))

/-- Blanks around an item, a comment that does not count on one side, and an element that is
left out on the other. -/
theorem compare_collapsing_eq_nil_list :
    let o : Options := ⟨true, true, false, [], ["script"], [], []⟩
    let item (tag : String) : Node :=
      .element "ul > li" tag [] [.text "ul > li (text)" (.literal "a  b")]
    let expected : Node := .element "ul" "ul" []
      [.text "ul (text)" (.literal " "), .comment "ul (comment)" "x", item "li"]
    let actual : Node := .element "ul" "ul" []
      [.text "ul (text)" (.literal " "), .element "ul > script" "script" [] [], item "LI"]
    o.KeepsOrder ∧ o.preserveWhitespace = true ∧ expected.Literal ∧ actual.Literal ∧
      compare o expected actual = [] ∧
      compare { o with preserveWhitespace := false } expected actual = [] := by
  intro o item expected actual
  have helement : ∀ {path tag : String} {children : List Node}, (∀ c ∈ children, c.Literal) →
      (Node.element path tag [] children).Literal :=
    fun h => .element List.Pairwise.nil (fun _ _ hv => absurd hv List.not_mem_nil) h
  have hitem : ∀ tag, (item tag).Literal := fun tag => helement (by simp [Node.Literal.text])
  have hexpected : expected.Literal :=
    helement (by simp [Node.Literal.text, Node.Literal.comment, hitem])
  have hactual : actual.Literal := helement (by simp [Node.Literal.text, helement, hitem])
  have hnil : compare o expected actual = [] := by decide +kernel
  exact ⟨⟨rfl, rfl⟩, rfl, hexpected, hactual, hnil,
    compare_collapsing_eq_nil ⟨rfl, rfl⟩ rfl hexpected hactual hnil⟩

end Expectation.Html
