import Mathlib.Data.List.Flatten
import Expectation.Proofs.Json.Reported

/-!
# Leaving out more fields prunes the report

The entries for fields that are left out are asked at three points: at a value, at an
expected member and at a member that is not expected.  Each time the answer yes drops what
would be reported there and touches nothing else, and the loops report point by point.  So
with more entries every report is a part of the one before, in its order.

## Main results

* `stepReport_sublist`, `Options.LeavesOutMore.memberReport_sublist`: what is reported at one
  point is pruned if what is found there is.
* `compare_sublist_of_subset`: a whole report is pruned.
-/

namespace Expectation.Json

variable {o o' : Options} {path : String}

/-- The second options leave out whatever the first ones do. -/
def Options.LeavesOutMore (o o' : Options) : Prop :=
  ∀ path, o.ignores path = true → o'.ignores path = true

theorem Options.leavesOutMore_of_subset (h : o.ignoredFields ⊆ o'.ignoredFields) :
    o.LeavesOutMore o' := by
  intro path hpath
  obtain ⟨entry, hentry, hnames⟩ := List.any_eq_true.mp hpath
  exact List.any_eq_true.mpr ⟨entry, h hentry, hnames⟩

/-! ## Arrays -/

/-- What is reported at an index is pruned if what is reported about the two items is. -/
theorem stepReport_sublist {v? w? : Option Value}
    (hvalue : ∀ v, v? = some v → ∀ w,
      (compare o' v path w).Sublist (compare o v path w)) :
    (stepReport o' path v? w?).Sublist (stepReport o path v? w?) := by
  cases v? with
  | none => cases w? <;> exact List.Sublist.refl _
  | some v =>
      cases w? with
      | none => exact List.Sublist.refl _
      | some w => exact hvalue v rfl w

theorem compareItems_sublist (path : String) {items : List Value}
    (hitems : ∀ v ∈ items, ∀ p w, (compare o' v p w).Sublist (compare o v p w))
    (others : List Value) :
    (compareItems o' path 0 items others).Sublist (compareItems o path 0 items others) := by
  rw [compareItems_eq_flatMap, compareItems_eq_flatMap]
  refine List.Sublist.flatMap_right _ fun i _ => stepReport_sublist fun v hv w => ?_
  exact hitems v (List.mem_of_getElem? hv) _ w

/-! ## Objects -/

namespace Options.LeavesOutMore

variable (h : o.LeavesOutMore o')

include h

theorem counts (hpath : o'.ignores path = false) : o.ignores path = false := by
  by_contra hcounts
  rw [h path (by simpa using hcounts)] at hpath
  exact absurd hpath (by decide)

/-- What is reported at an expected member is dropped, or pruned if what is reported about
its value is. -/
theorem memberReport_sublist {others : List (String × Value)} {k : String} {v : Value}
    (hvalue : ∀ w, (compare o' v (keyPath path k) w).Sublist (compare o v (keyPath path k) w)) :
    (memberReport o' path others k v).Sublist (memberReport o path others k v) := by
  cases hk : o'.ignores (keyPath path k) with
  | true => simp [memberReport, hk]
  | false =>
      simp only [memberReport, hk, h.counts hk, Bool.false_or]
      split
      · exact List.Sublist.refl _
      · cases lookup k others with
        | none => exact List.Sublist.refl _
        | some w => exact hvalue w

/-- What is reported at a member that is not expected is dropped or kept. -/
theorem additionReport_sublist (members : List (String × Value)) (k : String) (w : Value) :
    (additionReport o' path members k w).Sublist (additionReport o path members k w) := by
  cases hk : o'.ignores (keyPath path k) with
  | true => simp [additionReport, hk]
  | false =>
      rw [additionReport, additionReport, hk, h.counts hk]

theorem compareMembers_sublist (path : String) {members : List (String × Value)}
    (hmembers : ∀ k v, (k, v) ∈ members →
      ∀ p w, (compare o' v p w).Sublist (compare o v p w))
    (others : List (String × Value)) :
    (compareMembers o' path others members).Sublist (compareMembers o path others members) := by
  rw [compareMembers_eq_flatMap, compareMembers_eq_flatMap]
  exact List.Sublist.flatMap_right _ fun m hm =>
    h.memberReport_sublist fun w => hmembers m.1 m.2 hm _ w

theorem addedMembers_sublist (path : String) (members others : List (String × Value)) :
    (addedMembers o' path members others).Sublist (addedMembers o path members others) := by
  rw [addedMembers_eq_flatMap, addedMembers_eq_flatMap]
  exact List.Sublist.flatMap_right _ fun m _ => h.additionReport_sublist members m.1 m.2

end Options.LeavesOutMore

/-! ## All trees -/

/-- A report on values that nobody looks at is pruned in any case. -/
theorem compare_sublist_of_counts {expected actual : Value}
    (h : o'.ignores path = false →
      (compare o' expected path actual).Sublist (compare o expected path actual)) :
    (compare o' expected path actual).Sublist (compare o expected path actual) := by
  cases hpath : o'.ignores path with
  | true =>
      rw [compare_of_ignores hpath]
      exact List.nil_sublist _
  | false => exact h hpath

/-- **Leaving out more fields prunes the report.**  With the order of arrays kept, and more
entries for fields that are left out, what is reported is a part of what was reported
before: the same differences in the same order, some of them dropped. -/
theorem compare_sublist_of_subset {o o' : Options} (ho : o.KeepsOrder) (ho' : o'.KeepsOrder)
    (h : o.ignoredFields ⊆ o'.ignoredFields) (expected : Value) (path : String)
    (actual : Value) :
    (compare o' expected path actual).Sublist (compare o expected path actual) := by
  have hmore := Options.leavesOutMore_of_subset h
  induction expected generalizing path actual with
  | array items ih =>
      refine compare_sublist_of_counts fun hpath => ?_
      cases actual with
      | array others =>
          have hitems := compareItems_sublist path ih others
          simpa [compare, hpath, hmore.counts hpath, ho.unordered, ho'.unordered] using hitems
      | _ => simp [compare, hpath, hmore.counts hpath]
  | object members ih =>
      refine compare_sublist_of_counts fun hpath => ?_
      cases actual with
      | object others =>
          have hmembers := hmore.compareMembers_sublist path ih others
          have hadded := hmore.addedMembers_sublist path members others
          simpa [compare, hpath, hmore.counts hpath] using hmembers.append hadded
      | _ => simp [compare, hpath, hmore.counts hpath]
  | _ =>
      -- nothing lies inside, so the options are asked about the value alone
      refine compare_sublist_of_counts fun hpath => ?_
      simp [compare, hpath, hmore.counts hpath]

/-- A name that is left out inside an array, next to a member that is left out either way. -/
theorem compare_sublist_of_subset_record :
    Options.KeepsOrder { ignoredFields := ["$.b"] } ∧
      Options.KeepsOrder { ignoredFields := ["id", "$.b"] } ∧
      (["$.b"] : List String) ⊆ ["id", "$.b"] ∧
      (compare { ignoredFields := ["id", "$.b"] }
          (.object [("a", .array [.object [("id", .int 1), ("n", .int 2)]]), ("b", .null)]) "$"
          (.object [("a", .array [.object [("id", .int 3), ("n", .int 4)]])])).Sublist
        (compare { ignoredFields := ["$.b"] }
          (.object [("a", .array [.object [("id", .int 1), ("n", .int 2)]]), ("b", .null)]) "$"
          (.object [("a", .array [.object [("id", .int 3), ("n", .int 4)]])])) := by
  have hsubset : (["$.b"] : List String) ⊆ ["id", "$.b"] := List.subset_cons_self _ _
  exact ⟨⟨rfl, rfl⟩, ⟨rfl, rfl⟩, hsubset,
    compare_sublist_of_subset ⟨rfl, rfl⟩ ⟨rfl, rfl⟩ hsubset _ _ _⟩

end Expectation.Json
