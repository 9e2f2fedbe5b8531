import Expectation.Proofs.Html.Admission
import Expectation.Proofs.Json.SelfAgreement
import Expectation.Proofs.Pairing.Matching

/-!
# Comparing in any order

Options can say that the order of some arrays, or of the children of some
elements, does not count.  The parts are then paired first fit, and first fit is
not the best pairing: an early matcher can take what a later literal needed.
Still, options of this kind never turn a match into a mismatch.  Where the parts
match one to one in the order given, the first part left over is always the
right one, so first fit finds this very match; by induction on the expected tree
this goes for trees in which any number of lists are paired.

In the other direction, a pairing that leaves nobody out is a match in some
order.

## Main results

* `Json.compareUnordered_of_compareItems`, `Json.exists_perm_of_compareUnordered`:
  matches in order are found, and what is found is a match in some order.
* `Json.compare_relax`, `Html.compare_relax`: the same for whole trees.
* `compare_eq_nil_of_keepsOrder`: a match in order is a match under all options.
-/

namespace Expectation

/-! ## Arrays -/

namespace Json

/-- The options with another say on which arrays have to keep their order. -/
def Options.relax (o : Options) (all : Bool) (paths : List String) : Options :=
  { o with ignoreArrayOrder := all, ignoreArrayOrderPaths := paths }

@[simp] theorem length_itemTrials (o : Options) (path : String) (i : Nat)
    (items : List Value) : (itemTrials o path i items).length = items.length := by
  induction items generalizing i with
  | nil => rfl
  | cons v vs ih => exact congrArg (· + 1) (ih (i + 1))

/-- Every trial is the comparison of an item at its path. -/
theorem mem_itemTrials {o : Options} {path : String} {i : Nat} {items : List Value}
    {trial : Value → List Difference} (h : trial ∈ itemTrials o path i items) :
    ∃ v ∈ items, ∃ j, trial = fun w => compare o v (indexPath path j) w := by
  induction items generalizing i with
  | nil => exact absurd h List.not_mem_nil
  | cons v vs ih =>
      rw [itemTrials] at h
      rcases List.mem_cons.mp h with rfl | h
      · exact ⟨v, List.mem_cons_self, i, rfl⟩
      · obtain ⟨u, hu, j, hj⟩ := ih h
        exact ⟨u, List.mem_cons_of_mem v hu, j, hj⟩

/-- The trials succeed in the order given exactly when the items have nothing to
report. -/
theorem forall₂_itemTrials_iff (o : Options) (path : String) (i : Nat)
    (items others : List Value) :
    List.Forall₂ (fun trial w => (trial w).isEmpty = true) (itemTrials o path i items) others ↔
      compareItems o path i items others = [] := by
  induction items generalizing i others with
  | nil => cases others <;> simp [itemTrials, compareItems, addedItems]
  | cons v vs ih => cases others <;> simp [itemTrials, compareItems, ← ih]

theorem compareUnordered_eq_nil_iff (path : String) (trials : List (Value → List Difference))
    (expected actual : List Value) :
    compareUnordered path trials expected actual = [] ↔
      expected.length = actual.length ∧
        Pairing.unmatched (fun trial v => (trial v).isEmpty) trials actual = [] := by
  unfold compareUnordered
  by_cases hlength : expected.length = actual.length <;> simp [hlength]

/-- Items that match in the order given are paired. -/
theorem compareUnordered_of_compareItems {o : Options} {path : String}
    {items others : List Value} (h : compareItems o path 0 items others = []) :
    compareUnordered path (itemTrials o path 0 items) items others = [] :=
  (compareUnordered_eq_nil_iff ..).mpr ⟨((compareItems_eq_nil_iff ..).mp h).1,
    Pairing.unmatched_eq_nil_of_forall₂ ((forall₂_itemTrials_iff ..).mpr h)⟩

/-- **Items that are paired match in some order.** -/
theorem exists_perm_of_compareUnordered {o : Options} {path : String}
    {items others : List Value}
    (h : compareUnordered path (itemTrials o path 0 items) items others = []) :
    ∃ zs, zs.Perm others ∧ compareItems o path 0 items zs = [] := by
  obtain ⟨hlength, hpaired⟩ := (compareUnordered_eq_nil_iff ..).mp h
  obtain ⟨zs, hperm, hmatch⟩ :=
    Pairing.exists_perm_of_unmatched_eq_nil (by simpa using hlength) hpaired
  exact ⟨zs, hperm, (forall₂_itemTrials_iff ..).mp hmatch⟩

/-- Arrays whose items match in order match, whether order counts or not. -/
theorem compare_arrays_of_compareItems {o : Options} {path : String}
    {items others : List Value} (h : compareItems o path 0 items others = []) :
    compare o (.array items) path (.array others) = [] := by
  refine compare_eq_nil_of_counts fun hpath => ?_
  cases horder : o.unordered path with
  | true =>
      rw [compare_arrays_of_unordered hpath horder]
      exact compareUnordered_of_compareItems h
  | false =>
      rw [compare_arrays_of_kept hpath horder]
      exact h

/-- Order says nothing about values of which not both are arrays and not both are objects. -/
theorem compare_relax_of_flat (o : Options) (all : Bool) (paths : List String) {path : String}
    {expected actual : Value}
    (harrays : ∀ items others, expected = .array items → actual ≠ .array others)
    (hobjects : ∀ members others, expected = .object members → actual ≠ .object others) :
    compare (o.relax all paths) expected path actual = compare o expected path actual :=
  compare_congr rfl harrays hobjects

/-- **Trees that match in order match under all options.** -/
theorem compare_relax {o : Options} (ho : o.KeepsOrder) (all : Bool) (paths : List String)
    {expected actual : Value} {path : String} (h : compare o expected path actual = []) :
    compare (o.relax all paths) expected path actual = [] := by
  induction expected generalizing path actual with
  | array items ih =>
      cases actual with
      | array others =>
          refine compare_eq_nil_of_counts fun (hpath : o.ignores path = false) => ?_
          -- the items have been compared in order, whatever `path` is
          rw [compare_arrays_of_kept hpath (ho.unordered path)] at h
          obtain ⟨hlength, hpairs⟩ := (compareItems_eq_nil_iff ..).mp h
          refine compare_arrays_of_compareItems ((compareItems_eq_nil_iff ..).mpr ?_)
          exact ⟨hlength, fun i v w hv hw =>
            ih v (List.mem_of_getElem? hv) (hpairs i v w hv hw)⟩
      | _ => exact (compare_relax_of_flat o all paths (by simp) (by simp)).trans h
  | object members ih =>
      cases actual with
      | object others =>
          refine compare_eq_nil_of_counts fun (hpath : o.ignores path = false) => ?_
          rw [compare_objects hpath, List.append_eq_nil_iff, compareMembers_eq_nil_iff,
            addedMembers_eq_nil_iff] at h
          rw [compare_objects (o := o.relax all paths) hpath, List.append_eq_nil_iff,
            compareMembers_eq_nil_iff, addedMembers_eq_nil_iff]
          obtain ⟨hmembers, hadded⟩ := h
          refine ⟨fun k v hmem hcounts hignore => ?_, hadded⟩
          obtain ⟨w, hw, hnil⟩ := hmembers k v hmem hcounts hignore
          exact ⟨w, hw, ih k v hmem hnil⟩
      | _ => exact (compare_relax_of_flat o all paths (by simp) (by simp)).trans h
  | _ => exact (compare_relax_of_flat o all paths (by simp) (by simp)).trans h

/-- A literal tree matches itself under all options. -/
theorem compare_literal_self (o : Options) {v : Value} (h : v.Literal) (path : String) :
    compare o v path v = [] := by
  have hkeeps : (o.relax false []).KeepsOrder := ⟨rfl, rfl⟩
  exact compare_relax hkeeps o.ignoreArrayOrder o.ignoreArrayOrderPaths
    (compare_self hkeeps h.canonical h.matcherFree h.nanFree path)

end Json

/-! ## Children -/

namespace Html

/-- The options with another say on which children have to keep their order. -/
def Options.relax (o : Options) (all : Bool) (paths : List String) : Options :=
  { o with ignoreChildOrder := all, ignoreChildOrderPaths := paths }

@[simp] theorem Options.ignoresAttribute_relax (o : Options) (all : Bool)
    (paths : List String) (path name : String) :
    (o.relax all paths).ignoresAttribute path name = o.ignoresAttribute path name := rfl

@[simp] theorem significant_relax (o : Options) (all : Bool) (paths : List String) :
    Node.significant (o.relax all paths) = Node.significant o := by
  funext n
  cases n <;> rfl

@[simp] theorem admitsAttribute_relax (o : Options) (all : Bool) (paths : List String)
    (v : Value) (text : String) :
    v.AdmitsAttribute (o.relax all paths) text ↔ v.AdmitsAttribute o text := by
  cases v <;> rfl

/-- The trials succeed in the order given exactly when the children have nothing
to report. -/
theorem forall₂_childTrials_iff (o : Options) (children actuals : List Node) :
    List.Forall₂ (fun trial a => (trial a).isEmpty = true) (childTrials o children) actuals ↔
      compareChildren o children actuals = [] := by
  induction children generalizing actuals with
  | nil => simp [childTrials, compareChildren]
  | cons c cs ih =>
      by_cases hcounts : c.significant o = true
      · cases actuals <;> simp [childTrials, compareChildren, hcounts, ← ih]
      · simp [childTrials, compareChildren, hcounts, ← ih]

/-- Children that match in the order given are paired. -/
theorem compareUnordered_of_compareChildren {o : Options} {path : String}
    {children actuals : List Node} (h : compareChildren o children actuals = []) :
    compareUnordered path (childTrials o children) (children.filter (Node.significant o))
      actuals = [] := by
  have hlength := ((compareChildren_significant_eq_nil_iff o children actuals).mp h).1
  have hpaired :=
    Pairing.unmatched_eq_nil_of_forall₂ ((forall₂_childTrials_iff o children actuals).mpr h)
  simp [compareUnordered, hlength, hpaired]

/-- Elements whose parts match in order match, whether order counts or not. -/
theorem compare_elements_of_compareChildren {o : Options}
    {path other tag otherTag : String} {attributes others : List (String × Value)}
    {children otherChildren : List Node} (htag : Text.sameName tag otherTag = true)
    (hattributes : compareAttributes o path others attributes = [])
    (hadded : addedAttributes o path attributes others = [])
    (hchildren : compareChildren o children
      (otherChildren.filter (Node.significant o)) = []) :
    compare o (.element path tag attributes children)
      (.element other otherTag others otherChildren) = [] := by
  cases hcounts : o.ignoresElement tag with
  | true => exact compare_of_ignoresElement hcounts
  | false =>
      rw [compare_elements hcounts htag, hattributes, hadded, hchildren,
        compareUnordered_of_compareChildren hchildren]
      split <;> rfl

/-- Order says nothing about nodes that are not both elements. -/
theorem compare_relax_of_flat (o : Options) (all : Bool) (paths : List String)
    {expected actual : Node}
    (h : expected.kindName = actual.kindName → expected.kindName ≠ "element") :
    compare (o.relax all paths) expected actual = compare o expected actual :=
  compare_congr (fun _ => rfl) rfl rfl h

/-- **Pages that match in order match under all options.** -/
theorem compare_relax {o : Options} (ho : o.KeepsOrder) (all : Bool) (paths : List String)
    {expected actual : Node} (h : compare o expected actual = []) :
    compare (o.relax all paths) expected actual = [] := by
  induction expected generalizing actual with
  | element path tag attributes children ih =>
      cases actual with
      | element other otherTag others otherChildren =>
          cases hcounts : o.ignoresElement tag with
          | true => exact compare_of_ignoresElement (o := o.relax all paths) hcounts
          | false =>
              obtain ⟨htag, hattributes, hadded, hchildren⟩ :=
                (compare_elements_eq_nil_iff ho hcounts).mp h
              refine compare_elements_of_compareChildren htag ?_ ?_ ?_
              · rw [compareAttributes_eq_nil_iff] at hattributes ⊢
                simpa using hattributes
              · rw [addedAttributes_eq_nil_iff] at hadded ⊢
                exact hadded
              · rw [compareChildren_significant_eq_nil_iff] at hchildren ⊢
                rw [significant_relax]
                obtain ⟨hlength, hpairs⟩ := hchildren
                refine ⟨hlength, fun i c d hc hd => ?_⟩
                have hmem : c ∈ children := (List.mem_filter.mp (List.mem_of_getElem? hc)).1
                exact ih c hmem (hpairs i c d hc hd)
      | _ => exact (compare_relax_of_flat o all paths (by simp [Node.kindName])).trans h
  | _ => exact (compare_relax_of_flat o all paths fun _ => by simp [Node.kindName]).trans h

end Html

/-! ## Both formats -/

/-- **Relaxing order never turns a match into a mismatch.**  If there is no
difference while the order of all arrays, or of all children, counts, there is
none under any options that differ in this only. -/
theorem compare_eq_nil_of_keepsOrder :
    (∀ (o : Json.Options) (expected actual : Json.Value) (path : String), o.KeepsOrder →
      Json.compare o expected path actual = [] →
      ∀ all paths, Json.compare { o with
        ignoreArrayOrder := all, ignoreArrayOrderPaths := paths } expected path actual = []) ∧
    (∀ (o : Html.Options) (expected actual : Html.Node), o.KeepsOrder →
      Html.compare o expected actual = [] →
      ∀ all paths, Html.compare { o with
        ignoreChildOrder := all, ignoreChildOrderPaths := paths } expected actual = []) := by
  constructor
  · intro o expected actual path ho h all paths
    exact Json.compare_relax ho all paths h
  · intro o expected actual ho h all paths
    exact Html.compare_relax ho all paths h

/-- A matcher in front of a literal that it would accept as well. -/
theorem compare_eq_nil_of_keepsOrder_matcherFirst :
    Json.Options.KeepsOrder {} ∧
      Json.compare {} (.array [.matcher .anyInt, .int 1]) "$" (.array [.int 2, .int 1]) = [] ∧
      Json.compare { ignoreArrayOrder := true } (.array [.matcher .anyInt, .int 1]) "$"
        (.array [.int 2, .int 1]) = [] ∧
      Html.Options.KeepsOrder {} ∧
      Html.compare {}
        (.element "p" "p" [] [.text "" (.matcher .anyString), .text "" (.literal "a")])
        (.element "p" "p" [] [.text "" (.literal "b"), .text "" (.literal "a")]) = [] ∧
      Html.compare { ignoreChildOrderPaths := ["p"] }
        (.element "p" "p" [] [.text "" (.matcher .anyString), .text "" (.literal "a")])
        (.element "p" "p" [] [.text "" (.literal "b"), .text "" (.literal "a")]) = [] := by
  have hitems : Json.compare {} (.array [.matcher .anyInt, .int 1]) "$"
      (.array [.int 2, .int 1]) = [] := by decide +kernel
  have hchildren : Html.compare {}
      (.element "p" "p" [] [.text "" (.matcher .anyString), .text "" (.literal "a")])
      (.element "p" "p" [] [.text "" (.literal "b"), .text "" (.literal "a")]) = [] := by
    decide +kernel
  obtain ⟨hjson, hhtml⟩ := compare_eq_nil_of_keepsOrder
  exact ⟨⟨rfl, rfl⟩, hitems, hjson {} _ _ "$" ⟨rfl, rfl⟩ hitems true [],
    ⟨rfl, rfl⟩, hchildren, hhtml {} _ _ ⟨rfl, rfl⟩ hchildren false ["p"]⟩

end Expectation
