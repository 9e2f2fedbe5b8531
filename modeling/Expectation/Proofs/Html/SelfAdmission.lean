import Expectation.Html.Expected
import Expectation.Proofs.AnyOrder
import Expectation.Proofs.Json.Members

/-!
# A page admits itself

A page whose texts and attribute values are all literal admits itself, and
nothing is reported between the two under any options.  The pages that texts
denote are of this kind as long as nothing in them is taken for a matcher: what
stands in the text is a literal, and the attributes of an element are kept by
ascending name, so that each name finds its own value again.

## Main results

* `literal_wrap`: reading literally always gives a page, and a literal one.
* `compare_literal_self`: nothing is reported between a literal page and itself.
-/

namespace Expectation.Html

/-- A page that stands for itself only: its texts and attribute values are
literal, and the names of attributes ascend. -/
inductive Node.Literal : Node → Prop where
  | element {path tag : String} {attributes : List (String × Value)} {children : List Node}
      (hasc : Json.Ascending attributes)
      (hvalues : ∀ name v, (name, v) ∈ attributes → ∃ s, v = .literal s)
      (hchildren : ∀ c ∈ children, c.Literal) :
      Literal (.element path tag attributes children)
  | text {path s : String} : Literal (.text path (.literal s))
  | comment {path s : String} : Literal (.comment path s)
  | doctype {path name : String} : Literal (.doctype path name)

/-! ## Reading literally -/

/-- Whatever stands in the text is a literal. -/
def resolveLiteral (raw : String) : Except DocumentError Value := .ok (.literal raw)

theorem resolveAttributes_literal (as : List Attribute) :
    resolveAttributes resolveLiteral as =
      .ok (as.map fun a => (a.name, .literal a.value)) := by
  induction as with
  | nil => rfl
  | cons a as ih =>
      simp only [resolveAttributes, resolveLiteral, ih]
      rfl

/-- The attributes of an element that is read literally are literal. -/
theorem exists_literal_of_mem_ofPairs {as : List Attribute} {name : String} {v : Value}
    (h : (name, v) ∈ Json.ofPairs (as.map fun a => (a.name, Value.literal a.value))) :
    ∃ s, v = .literal s := by
  obtain ⟨a, -, ha⟩ := List.mem_map.mp (Json.mem_of_mem_ofPairs h)
  exact ⟨a.value, (congrArg Prod.snd ha).symm⟩

mutual

/-- Every tree that is read literally gives a literal node. -/
theorem literal_node (parent : String) (seen : List String) (t : Tree) :
    ∃ n, Tree.node resolveLiteral parent seen t = .ok n ∧ n.Literal := by
  cases t with
  | element tag attributes children =>
      obtain ⟨ns, hns, hliteral⟩ :=
        literal_nodes (elementPath parent tag (seen.count tag)) [] children
      let values := attributes.map fun a => (a.name, Value.literal a.value)
      have hvalues : ∀ name v, (name, v) ∈ Json.ofPairs values → ∃ s, v = .literal s :=
        fun _ _ => exists_literal_of_mem_ofPairs
      refine ⟨.element (elementPath parent tag (seen.count tag)) tag (Json.ofPairs values) ns,
        ?_, .element (Json.ascending_ofPairs values) hvalues hliteral⟩
      simp only [Tree.node, resolveAttributes_literal, hns]
      rfl
  | text t => exact ⟨_, rfl, .text⟩
  | comment t => exact ⟨_, rfl, .comment⟩
  | doctype name => exact ⟨_, rfl, .doctype⟩

/-- Trees that are read literally give literal nodes. -/
theorem literal_nodes (parent : String) (seen : List String) (ts : List Tree) :
    ∃ ns, Tree.nodes resolveLiteral parent seen ts = .ok ns ∧
      ∀ n ∈ ns, n.Literal := by
  cases ts with
  | nil => exact ⟨[], rfl, fun n hn => absurd hn List.not_mem_nil⟩
  | cons t ts =>
      obtain ⟨n, hn, hliteral⟩ := literal_node parent seen t
      obtain ⟨ns, hns, hliterals⟩ := literal_nodes parent (t.passed seen) ts
      refine ⟨n :: ns, ?_, List.forall_mem_cons.mpr ⟨hliteral, hliterals⟩⟩
      simp only [Tree.nodes, hn, hns]
      rfl

end

/-- **Reading literally** always gives a page, and a literal one. -/
theorem literal_wrap (parts : List Tree) :
    ∃ n, wrap resolveLiteral parts = .ok n ∧ n.Literal := by
  obtain ⟨ns, hns, hliteral⟩ := literal_nodes "" [] parts
  refine ⟨.element "" documentTag [] ns, ?_, .element List.Pairwise.nil ?_ hliteral⟩
  · rw [wrap, hns]
    rfl
  · exact fun name v hv => absurd hv List.not_mem_nil

/-! ## Comparing a page with itself -/

/-- A literal page admits itself. -/
theorem admits_self (o : Options) {n : Node} (h : n.Literal) : Admits o n n := by
  induction h with
  | text => exact .text rfl
  | comment => exact .comment (.inr rfl)
  | doctype => exact .doctype (Text.sameName_refl _)
  | @element path tag attributes children hasc hvalues _ ih =>
      refine .element (Text.sameName_refl tag) ?_ (fun name w hw _ => ⟨w, hw⟩) rfl ?_
      · intro name v hv _ _
        obtain ⟨s, rfl⟩ := hvalues name v hv
        exact ⟨_, Json.lookup_eq_some_of_mem hasc hv, rfl⟩
      · intro i c d hc hd
        obtain rfl := Option.some.inj (hc.symm.trans hd)
        exact ih c (List.mem_filter.mp (List.mem_of_getElem? hc)).1

/-- **Nothing is reported** between a literal page and itself. -/
theorem compare_literal_self (o : Options) {n : Node} (h : n.Literal) :
    compare o n n = [] := by
  have hkeeps : (o.relax false []).KeepsOrder := ⟨rfl, rfl⟩
  exact compare_relax hkeeps o.ignoreChildOrder o.ignoreChildOrderPaths
    (compare_eq_nil_of_admits hkeeps (admits_self _ h))

end Expectation.Html
