import Expectation.Proofs.SelfCheck
import Expectation.Proofs.Text.Words

/-!
# Writing a page as the expected one

An update replaces the expected page by the text of the actual one, laid out
anew.  Reading that text gives the page with another layout: there are other
blanks, the texts are trimmed, and each comment stands between single blanks.
The comparison does not mind the first two, but comments are compared as they
are.

The page that a parser reads from the text is given here.  If it is the written
one up to layout, it is the comments alone that decide whether the document
matches what was written for it.

## Main results

* `Node.same_iff`: the test for equal pages is equality.
* `compare_bare_iff`: the layout does not take part in the comparison.
* `checkWith_expectedText`: a page matches the text that is written for it exactly if its
  comments are padded, provided the text is read as the page.
-/

namespace Expectation.Html

open Text (Lacks utf8)

/-! ## Equal pages -/

/-- **The test for equal pages is equality.** -/
theorem Node.same_iff {a b : Node} : a.same b = true ↔ a = b := by
  induction a generalizing b with
  | element path tag as cs ih =>
      have hlist : ∀ ds, Node.sameList cs ds = true ↔ cs = ds := by
        induction cs with
        | nil => intro ds; cases ds <;> simp [Node.sameList]
        | cons c cs ihs =>
            intro ds
            have hcs := ihs fun d hd => ih d (List.mem_cons_of_mem c hd)
            cases ds with
            | nil => simp [Node.sameList]
            | cons d ds => simp [Node.sameList, ih c List.mem_cons_self, hcs]
      cases b with
      | element => simp [Node.same, hlist, and_assoc]
      | _ => simp [Node.same]
  | text path v => cases b <;> simp [Node.same]
  | comment path s => cases b <;> simp [Node.same]
  | doctype path s => cases b <;> simp [Node.same]

instance : DecidableEq Node := fun _ _ => decidable_of_iff _ Node.same_iff

/-! ## Layout -/

namespace Node

mutual

/-- The page without its layout: texts are trimmed, and blank ones left out. -/
def bare : Node → Node
  | .element path tag as cs => .element path tag as (bareList cs)
  | .text path (.literal s) => .text path (.literal (Text.trimmed s))
  | n => n

/-- The nodes without their layout. -/
def bareList : List Node → List Node
  | [] => []
  | n :: ns => if n.isBlankText then bareList ns else bare n :: bareList ns

end

/-- A comment as it is written. -/
def paddedText (s : String) : String := " " ++ Text.trimmed s ++ " "

mutual

/-- The page with its comments as they are written. -/
def padded : Node → Node
  | .element path tag as cs => .element path tag as (paddedList cs)
  | .comment path s => .comment path (paddedText s)
  | n => n

/-- The nodes with their comments as they are written. -/
def paddedList : List Node → List Node
  | [] => []
  | n :: ns => padded n :: paddedList ns

end

theorem bareList_eq (ns : List Node) :
    bareList ns = (ns.filter (!·.isBlankText)).map bare := by
  induction ns with
  | nil => rfl
  | cons n ns ih => cases h : n.isBlankText <;> simp [bareList, h, ih]

theorem paddedList_eq (ns : List Node) : paddedList ns = ns.map padded := by
  induction ns with
  | nil => rfl
  | cons n ns ih => rw [paddedList, ih, List.map_cons]

@[simp] theorem isBlankText_bare (n : Node) : n.bare.isBlankText = n.isBlankText := by
  cases n with
  | text path v => cases v <;> simp [bare, isBlankText, Value.isBlank]
  | _ => rfl

@[simp] theorem kindName_bare (n : Node) : n.bare.kindName = n.kindName := by
  cases n with
  | text path v => cases v <;> rfl
  | _ => rfl

@[simp] theorem isBlankText_padded (n : Node) : n.padded.isBlankText = n.isBlankText := by
  cases n <;> rfl

/-- All nodes but blank texts take part in a comparison without options. -/
theorem significant_default : significant {} = fun n => !n.isBlankText := by
  funext n
  cases n <;> simp [significant, isBlankText, Options.ignoresElement]

end Node

/-! ## The layout does not take part -/

theorem filter_bareList (ns : List Node) :
    (Node.bareList ns).filter (Node.significant {}) =
      (ns.filter (Node.significant {})).map Node.bare := by
  rw [Node.bareList_eq, Node.significant_default, List.filter_map, List.filter_filter]
  simp

theorem filter_paddedList (ns : List Node) :
    (Node.paddedList ns).filter (Node.significant {}) =
      (ns.filter (Node.significant {})).map Node.padded := by
  rw [Node.paddedList_eq, Node.significant_default, List.filter_map]
  simp [Function.comp_def]

theorem keepsOrder_default : Options.KeepsOrder {} := ⟨rfl, rfl⟩

/-- Nodes of different kinds are told apart, whatever their layout. -/
theorem compare_bare_iff_of_kindName_ne {m n : Node} (hlooked : m.admitsAny {} = false)
    (hlooked' : m.bare.admitsAny {} = false) (hkind : m.kindName ≠ n.kindName) :
    compare {} m.bare n.bare = [] ↔ compare {} m n = [] := by
  refine iff_of_false (compare_ne_nil_of_kindName_ne hlooked' ?_)
    (compare_ne_nil_of_kindName_ne hlooked hkind)
  rwa [Node.kindName_bare, Node.kindName_bare]

/-- **The layout does not take part in the comparison.** -/
theorem compare_bare_iff {m n : Node} (hm : m.Literal) (hn : n.Literal) :
    compare {} m.bare n.bare = [] ↔ compare {} m n = [] := by
  induction hm generalizing n with
  | @element path tag as cs hasc hvalues hchildren ih =>
      cases hn with
      | @element other otherTag bs ds _ _ hothers =>
          have hpair : ∀ {i : Nat} {c d}, (cs.filter (Node.significant {}))[i]? = some c →
              (ds.filter (Node.significant {}))[i]? = some d →
                (compare {} c.bare d.bare = [] ↔ compare {} c d = []) := fun hc hd =>
            ih _ (List.mem_filter.mp (List.mem_of_getElem? hc)).1
              (hothers _ (List.mem_filter.mp (List.mem_of_getElem? hd)).1)
          have hpairs : compareChildren {} (Node.bareList cs)
              ((Node.bareList ds).filter (Node.significant {})) = [] ↔
                compareChildren {} cs (ds.filter (Node.significant {})) = [] := by
            rw [compareChildren_significant_eq_nil_iff, compareChildren_significant_eq_nil_iff,
              filter_bareList, filter_bareList, List.length_map, List.length_map]
            refine and_congr Iff.rfl ⟨fun h i c d hc hd => ?_, fun h i e a he ha => ?_⟩
            · exact (hpair hc hd).mp (h i _ _ (by simp [hc]) (by simp [hd]))
            · obtain ⟨c, hc, rfl⟩ := Option.map_eq_some_iff.mp (List.getElem?_map ▸ he)
              obtain ⟨d, hd, rfl⟩ := Option.map_eq_some_iff.mp (List.getElem?_map ▸ ha)
              exact (hpair hc hd).mpr (h i c d hc hd)
          rw [Node.bare, Node.bare, compare_elements_eq_nil_iff keepsOrder_default rfl,
            compare_elements_eq_nil_iff keepsOrder_default rfl, hpairs]
      | _ => exact compare_bare_iff_of_kindName_ne rfl rfl (by simp [Node.kindName])
  | @text path s =>
      cases hn with
      | text =>
          rw [Node.bare, Node.bare, compare_texts, compare_texts, compareText_eq_nil_iff,
            compareText_eq_nil_iff]
          simp [Value.AdmitsText, comparedText, Value.text]
      | _ => exact compare_bare_iff_of_kindName_ne rfl rfl (by simp [Node.kindName])
  | comment =>
      cases hn with
      | comment => simp [Node.bare, compare_comments]
      | _ => exact compare_bare_iff_of_kindName_ne rfl rfl (by simp [Node.kindName])
  | doctype =>
      cases hn with
      | doctype => simp [Node.bare, compare_doctypes]
      | _ => exact compare_bare_iff_of_kindName_ne rfl rfl (by simp [Node.kindName])

/-! ## Comments -/

theorem paddedList_eq_self_iff {ns : List Node} :
    Node.paddedList ns = ns ↔ ∀ n ∈ ns, n.padded = n := by
  induction ns with
  | nil => simp [Node.paddedList]
  | cons n ns ih => simp [Node.paddedList, ih]

/-- Only comments are changed by padding. -/
theorem padded_of_not_significant {n : Node} (h : n.significant {} = false) : n.padded = n := by
  cases n with
  | element | comment => simp [Node.significant, Options.ignoresElement] at h
  | text | doctype => rfl

/-- **Padding is seen by the comparison** wherever it changes a comment. -/
theorem compare_padded_iff {n : Node} (hn : n.Literal) :
    compare {} n.padded n = [] ↔ n.padded = n := by
  refine ⟨fun h => ?_, fun h => h.symm ▸ compare_literal_self {} (h.symm ▸ hn)⟩
  induction hn with
  | @element path tag as cs hasc hvalues hchildren ih =>
      rw [Node.padded, compare_elements_eq_nil_iff keepsOrder_default rfl] at h
      have hcs := h.2.2.2
      rw [compareChildren_significant_eq_nil_iff, filter_paddedList] at hcs
      rw [Node.padded, paddedList_eq_self_iff.mpr]
      intro c hc
      cases hcounts : c.significant {} with
      | false => exact padded_of_not_significant hcounts
      | true =>
          obtain ⟨i, hi⟩ := List.mem_iff_getElem?.mp (List.mem_filter.mpr ⟨hc, hcounts⟩)
          exact ih c hc (hcs.2 i _ c (by simp [hi]) hi)
  | comment =>
      rw [Node.padded, compare_comments] at h
      rw [Node.padded]
      simpa using h
  | text | doctype => rfl

theorem Node.Literal.padded {n : Node} (h : n.Literal) : n.padded.Literal := by
  induction h with
  | element hasc hvalues _ ih =>
      refine .element hasc hvalues ?_
      rw [Node.paddedList_eq]
      exact List.forall_mem_map.mpr ih
  | text => exact .text
  | comment => exact .comment
  | doctype => exact .doctype

/-! ## Writing a page and reading it again -/

/-- **A page matches the text that is written for it exactly if its comments are padded**: if
the text holds no front of a placeholder, and if it is read as the page with its comments
padded, up to layout. -/
theorem checkWith_expectedText (parse : String → List Tree) {text : String} {n m : Node}
    (hn : wrap resolveLiteral (parse text) = .ok n)
    (hm : wrap resolveLiteral (parse n.expectedText) = .ok m)
    (hlayout : m.bare = n.padded.bare)
    (hlacks : Lacks ['\x7B', '\x7B'] n.expectedText.toList) (p : Report.Palette) :
    ∃ v, checkWith parse n.expectedText (utf8 text) {} p = .ok v ∧
      (v = ⟨[], none, ""⟩ ↔ n.padded = n) := by
  have hresolve : resolve ⟨n.expectedText, []⟩ = resolveLiteral :=
    resolve_of_expressions_eq_nil rfl
  have hliteral : ∀ {parts page}, wrap resolveLiteral parts = .ok page → page.Literal := by
    intro parts page hpage
    obtain ⟨page', hpage', hliteral⟩ := literal_wrap parts
    rw [hpage] at hpage'
    exact Except.ok.inj hpage' ▸ hliteral
  have hcompare : compare {} m n = [] ↔ n.padded = n := by
    rw [← compare_bare_iff (hliteral hm) (hliteral hn), hlayout,
      compare_bare_iff (hliteral hn).padded (hliteral hn), compare_padded_iff (hliteral hn)]
  refine ⟨judge {} p m n, ?_, by rw [judge, Verdict.ofDifferences_eq_nil_iff, hcompare]⟩
  simp only [checkWith, Substitution.ofText_of_lacks .plain hlacks, hresolve, hm,
    Text.decode_utf8, hn]
  rfl

end Expectation.Html
