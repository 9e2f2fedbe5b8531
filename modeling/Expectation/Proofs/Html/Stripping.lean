import Expectation.Proofs.Html.Likeness

/-!
# Nodes that have no say

Elements that are left out, comments that do not count and blanks between the
tags stand in the way of a comparison: they shift the children of an element,
and they would spoil counts and pairings.  The comparison passes over them level
by level as it goes down.  Taking them out of both pages at every depth before
it starts makes no difference to its report, whatever the options are: neither
to a place, where nodes keep the paths they were read with, nor to what is shown
there, which never depends on the children of a node.

## Main results

* `strippedList_eq`: stripping children keeps the significant ones, stripped.
* `compareChildren_stripped`, `compareUnordered_stripped`: the two ways to compare
  children, if comparing single children is the same before and after.
* `compare_stripped`: comparing pages is comparing what is left of them.
-/

namespace Expectation.Html

variable {o : Options}

/-! ## Stripped pages -/

namespace Node

/-- A node that a page is as good without: an element with a tag that is left out,
a comment where comments do not count, or a literal text of blanks where blanks
do not count. -/
def isSpare (o : Options) : Node → Bool
  | .element _ tag _ _ => o.ignoredElements.any (Text.sameName · tag)
  | .comment .. => o.ignoreComments
  | .text _ (.literal s) => !o.preserveWhitespace && Text.allBlank s
  | _ => false

mutual

/-- The page without the spare nodes below its elements; the others keep their
paths. -/
def stripped (o : Options) : Node → Node
  | .element path tag attributes children =>
    .element path tag attributes (strippedList o children)
  | n => n

/-- The children of an element without the spare ones, stripped themselves. -/
def strippedList (o : Options) : List Node → List Node
  | [] => []
  | n :: ns => if n.isSpare o then strippedList o ns else n.stripped o :: strippedList o ns

end

theorem significant_eq_not_isSpare (n : Node) : n.significant o = !n.isSpare o := by
  cases n with
  | text path v =>
      cases v with
      | literal s => simp [significant, isSpare, Value.isBlank]
      | _ => simp [significant, isSpare, Value.isBlank]
  | _ => rfl

@[simp] theorem path_stripped (n : Node) : (n.stripped o).path = n.path := by
  cases n <;> rfl

@[simp] theorem describe_stripped (n : Node) : (n.stripped o).describe = n.describe := by
  cases n <;> rfl

@[simp] theorem significant_stripped (n : Node) :
    (n.stripped o).significant o = n.significant o := by
  cases n <;> rfl

end Node

open Node

/-- **Stripping keeps what counts.**  What is left of the children are the
significant ones, stripped. -/
theorem strippedList_eq (children : List Node) :
    strippedList o children = (significantChildren o children).map (stripped o) := by
  induction children with
  | nil => rfl
  | cons c cs ih =>
      cases hspare : c.isSpare o with
      | true =>
          have hcounts : c.significant o = false := by simp [significant_eq_not_isSpare, hspare]
          simp [strippedList, significantChildren, hspare, hcounts, ih]
      | false =>
          have hcounts : c.significant o = true := by simp [significant_eq_not_isSpare, hspare]
          simp [strippedList, significantChildren, hspare, hcounts, ih]

/-- A comment and blanks go, at every depth; the paths stay. -/
example : stripped { ignoreComments := true }
    (.element "ul" "ul" [] [.text "ul (text)" (.literal "\n  "),
      .element "ul > li" "li" [] [.comment "ul > li (comment)" "one"]]) =
    .element "ul" "ul" [] [.element "ul > li" "li" [] []] := by
  rfl

/-- All that is left after stripping counts. -/
theorem significantChildren_strippedList (children : List Node) :
    significantChildren o (strippedList o children) =
      (significantChildren o children).map (stripped o) := by
  rw [strippedList_eq, significantChildren, List.filter_eq_self]
  intro c hc
  obtain ⟨d, hd, rfl⟩ := List.mem_map.mp hc
  rw [significant_stripped]
  exact (mem_significantChildren.mp hd).2

/-! ## Children -/

/-- The children without a match, when trials decide about matches. -/
def unmatchedTrials (trials : List (Node → List Difference)) (actuals : List Node) :
    List (Nat × Option Nat) :=
  Pairing.unmatched (fun trial n => (trial n).isEmpty) trials actuals

/-- Changing the actual nodes has the effect of changing every trial. -/
theorem unmatchedTrials_map (trials : List (Node → List Difference)) (g : Node → Node)
    (actuals : List Node) :
    unmatchedTrials trials (actuals.map g) = unmatchedTrials (trials.map (· ∘ g)) actuals := by
  calc unmatchedTrials trials (actuals.map g)
      = unmatchedTrials (trials.map id) (actuals.map g) := by rw [List.map_id]
    _ = Pairing.unmatched (fun trial n => (trial (g n)).isEmpty) trials actuals :=
      Pairing.unmatched_map ..
    _ = unmatchedTrials (trials.map (· ∘ g)) (actuals.map id) := by
      rw [unmatchedTrials, Pairing.unmatched_map]
      rfl
    _ = unmatchedTrials (trials.map (· ∘ g)) actuals := by rw [List.map_id]

section Children

variable {expected : List Node}
  (hexpected : ∀ e ∈ expected, ∀ a, compare o (e.stripped o) (a.stripped o) = compare o e a)

include hexpected

/-- Children that compare alike before and after stripping do so place by place. -/
theorem compareChildren_stripped (actuals : List Node) :
    compareChildren o (expected.map (stripped o)) (actuals.map (stripped o)) =
      compareChildren o expected actuals := by
  induction expected generalizing actuals with
  | nil => simp [compareChildren, addedChild, Function.comp_def]
  | cons e es ih =>
      have htail := ih fun d hd => hexpected d (List.mem_cons_of_mem e hd)
      cases actuals with
      | nil =>
          have hrest := htail []
          rw [List.map_nil] at hrest
          simp [compareChildren, removedChild, hrest]
      | cons a as =>
          have hnext := htail (a :: as)
          rw [List.map_cons] at hnext
          simp [compareChildren, hexpected e List.mem_cons_self a, htail as, hnext]

/-- Children that compare alike before and after stripping are paired alike. -/
theorem unmatched_stripped (actuals : List Node) :
    unmatchedTrials ((expected.map (stripped o)).map (compare o)) (actuals.map (stripped o)) =
      unmatchedTrials (expected.map (compare o)) actuals := by
  rw [unmatchedTrials_map, List.map_map, List.map_map]
  have htrials : expected.map (((· ∘ stripped o) ∘ compare o) ∘ stripped o) =
      expected.map (compare o) :=
    List.map_congr_left fun e he => funext (hexpected e he)
  rw [htrials]

/-- What is reported about children in any order is the same before and after. -/
theorem compareUnordered_stripped (path : String) (actuals : List Node) :
    compareUnordered path ((expected.map (stripped o)).map (compare o))
        (expected.map (stripped o)) (actuals.map (stripped o)) =
      compareUnordered path (expected.map (compare o)) expected actuals := by
  have hshown : ∀ i : Nat, (expected.map (stripped o))[i]?.getD default =
      stripped o (expected[i]?.getD default) := by
    intro i
    rw [List.getElem?_map]
    cases expected[i]? <;> rfl
  have hpartner : ∀ j : Option Nat, (j.bind fun k => (actuals.map (stripped o))[k]?) =
      (j.bind fun k => actuals[k]?).map (stripped o) := by
    intro j
    cases j <;> simp
  have hpairs := unmatched_stripped hexpected actuals
  unfold unmatchedTrials at hpairs
  unfold compareUnordered
  simp only [List.length_map, hpairs, hshown, hpartner, path_stripped, describe_stripped]
  split
  · rfl
  · refine List.map_congr_left fun pair _ => ?_
    cases pair.2.bind fun k => actuals[k]? <;> simp

end Children

/-! ## Whole pages -/

/-- **Nodes that have no say never influence a comparison.**  Comparing two pages
gives the same report, difference by difference, as comparing what is left of them
without the spare nodes below their elements. -/
theorem compare_stripped (o : Options) (expected actual : Node) :
    compare o expected actual = compare o (expected.stripped o) (actual.stripped o) := by
  induction expected generalizing actual with
  | element path tag attributes children ih =>
      cases actual with
      | element other otherTag others otherChildren =>
          have hchildren : ∀ e ∈ significantChildren o children, ∀ a,
              compare o (e.stripped o) (a.stripped o) = compare o e a :=
            fun e he a => (ih e (mem_significantChildren.mp he).1 a).symm
          have hordered : compareChildren o (strippedList o children)
                (significantChildren o (strippedList o otherChildren)) =
              compareChildren o children (significantChildren o otherChildren) := by
            rw [compareChildren_filter, ← significantChildren, significantChildren_strippedList,
              significantChildren_strippedList, compareChildren_stripped hchildren,
              compareChildren_filter o children]
            rfl
          have hpaired : compareUnordered path (childTrials o (strippedList o children))
                (significantChildren o (strippedList o children))
                (significantChildren o (strippedList o otherChildren)) =
              compareUnordered path (childTrials o children) (significantChildren o children)
                (significantChildren o otherChildren) := by
            rw [childTrials_eq_map, childTrials_eq_map, significantChildren_strippedList,
              significantChildren_strippedList, compareUnordered_stripped hchildren]
          unfold significantChildren at hordered hpaired
          simp only [stripped, compare, hordered, hpaired]
      | _ => simp [compare, stripped, mismatched, kindName]
  | text path v => cases actual <;> simp [compare, stripped, mismatched, kindName]
  | comment path s => cases actual <;> simp [compare, stripped, mismatched, kindName]
  | doctype path s => cases actual <;> simp [compare, stripped, mismatched, kindName]

end Expectation.Html
