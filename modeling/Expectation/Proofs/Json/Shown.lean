import Expectation.Proofs.Json.Reported
import Expectation.Proofs.Json.Succession

/-!
# Differences are there to be seen

A difference names a path and shows what is there.  The path is only a text, put
together step by step on the way down, and the sides are picked up somewhere
else; so it has to be shown that they belong together.  There is always one place
behind the path: going there in either tree leads to what the side of that tree
shows, and where a side shows nothing, to nothing or to a null.

Going one step down to a difference inside is the same in both trees, so every
reason for a difference keeps the property if the difference inside has it.

## Main results

* `Difference.ShownAt.below`: a place seen from one step further up.
* `shownAt_of_reported`: every reported difference is shown at a place.
* `exists_place_of_mem_compare`: the differences of a comparison that keeps order.
-/

namespace Expectation

open Json (Place Step Value)

/-- A side shows what is found in its document: a value as it is, a matcher by its
description, and a lack of anything, or a null, as nothing. -/
def Side.Shows (found : Option Value) : Side → Prop
  | .absent => found = none ∨ found = some .null
  | .value v => found = some v
  | .description text => ∃ m : Matcher, found = some (.matcher m) ∧ text = m.describe

/-- A difference shows what two documents have at a place.  The actual side is
always a value or nothing, and a change is from a value to an unequal one of the
same type. -/
structure Difference.ShownAt (expected actual : Value) (q : Place) (d : Difference) :
    Prop where
  expected_shows : d.expected.Shows (expected.at? q)
  actual_shows : d.actual.Shows (actual.at? q)
  actual_ne_description : ∀ text, d.actual ≠ .description text
  unequal_of_changed : d.kind = .changed → ∃ v w : Value,
    d.expected = .value v ∧ d.actual = .value w ∧ v.typeName = w.typeName ∧ v.Unequal w

namespace Difference

variable {expected actual v w : Value} {s : Step} {q : Place} {d : Difference}

/-- What is shown at a place below a step is shown at the place behind that step. -/
theorem ShownAt.below (hv : expected.step? s = some v) (hw : actual.step? s = some w)
    (h : d.ShownAt v w q) : d.ShownAt expected actual (s :: q) where
  expected_shows := by
    rw [Value.at?_cons, hv]
    exact h.expected_shows
  actual_shows := by
    rw [Value.at?_cons, hw]
    exact h.actual_shows
  actual_ne_description := h.actual_ne_description
  unequal_of_changed := h.unequal_of_changed

/-- A value that only the expected tree has one step down is shown there. -/
theorem shownAt_removed {path : String} (hv : expected.step? s = some v)
    (hw : actual.step? s = none) : (Json.removed path v).ShownAt expected actual [s] where
  expected_shows := by simp [Json.removed, Side.Shows, Value.at?, hv]
  actual_shows := by simp [Json.removed, Side.Shows, Value.at?, hw]
  actual_ne_description := nofun
  unequal_of_changed := nofun

/-- A value that only the actual tree has one step down is shown there. -/
theorem shownAt_added {path : String} (hv : expected.step? s = none)
    (hw : actual.step? s = some w) : (Json.added path w).ShownAt expected actual [s] where
  expected_shows := by simp [Json.added, Side.Shows, Value.at?, hv]
  actual_shows := by simp [Json.added, Side.Shows, Value.at?, hw]
  actual_ne_description := nofun
  unequal_of_changed := nofun

end Difference

namespace Json

/-- **Every difference is shown at a place.**  If the order of arrays counts, a
reported difference has a place behind its path where both trees have what it
shows. -/
theorem shownAt_of_reported {o : Options} (ho : o.KeepsOrder) {path : String}
    {expected actual : Value} {d : Difference} (h : Reported o path expected actual d)
    (hexpected : expected.Canonical) (hactual : actual.Canonical) :
    ∃ q : Place, q.render path = d.path ∧ d.ShownAt expected actual q := by
  induction h with
  | @rejected path m actual _ =>
      exact ⟨[], rfl, ⟨m, rfl, rfl⟩, rfl, nofun, nofun⟩
  | @added path actual _ => exact ⟨[], rfl, .inr rfl, rfl, nofun, nofun⟩
  | @removed path expected _ => exact ⟨[], rfl, rfl, .inr rfl, nofun, nofun⟩
  | @mismatched path expected actual _ => exact ⟨[], rfl, rfl, rfl, nofun, nofun⟩
  | @changed path expected actual htype h =>
      exact ⟨[], rfl, rfl, rfl, nofun, fun _ => ⟨expected, actual, rfl, rfl, htype, h⟩⟩
  | @lengths path items others horder _ =>
      exact absurd (horder.symm.trans (ho.unordered path)) (by decide)
  | @unmatched path items others i j v w horder _ _ =>
      exact absurd (horder.symm.trans (ho.unordered path)) (by decide)
  | @item path items others i v w d _ _ hv hw _ ih =>
      obtain ⟨q, hq, hshown⟩ := ih (hexpected.items v (List.mem_of_getElem? hv))
        (hactual.items w (List.mem_of_getElem? hw))
      exact ⟨.index i :: q, hq, hshown.below hv hw⟩
  | @removedItem path items others i v _ hv hw =>
      exact ⟨[.index i], rfl, Difference.shownAt_removed hv hw⟩
  | @addedItem path items others i w _ hv hw =>
      exact ⟨[.index i], rfl, Difference.shownAt_added hv hw⟩
  | @member path k members others v w d _ hv hw _ ih =>
      obtain ⟨q, hq, hshown⟩ := ih (hexpected.members k v hv)
        (hactual.members k w (mem_of_lookup_eq_some hw))
      have hv' : lookup k members = some v := lookup_eq_some_of_mem hexpected.ascending hv
      exact ⟨.key k :: q, hq, hshown.below hv' hw⟩
  | @removedMember path k members others v _ hv hw =>
      have hv' : lookup k members = some v := lookup_eq_some_of_mem hexpected.ascending hv
      exact ⟨[.key k], rfl, Difference.shownAt_removed hv' hw⟩
  | @addedMember path k members others w _ hv hw =>
      have hw' : lookup k others = some w := lookup_eq_some_of_mem hactual.ascending hw
      exact ⟨[.key k], rfl, Difference.shownAt_added hv hw'⟩

/-- **Differences are witnessed by the documents.**  Behind the path of every
difference there is a place at which both trees have what the difference shows. -/
theorem exists_place_of_mem_compare {o : Options} (ho : o.KeepsOrder)
    {expected actual : Value} (hexpected : expected.Canonical) (hactual : actual.Canonical)
    (path : String) {d : Difference} (h : d ∈ compare o expected path actual) :
    ∃ q : Place, q.render path = d.path ∧ d.ShownAt expected actual q :=
  shownAt_of_reported ho (reported_of_mem_compare h) hexpected hactual

/-- A matcher that fails inside an array, next to an item that is too many. -/
theorem exists_place_of_mem_compare_item :
    Options.KeepsOrder {} ∧
      (Value.object [("a", .array [.matcher .anyInt])]).Canonical ∧
      (Value.object [("a", .array [.string "x", .null])]).Canonical ∧
      rejected "$.a[0]" .anyInt (.string "x") ∈
        compare {} (.object [("a", .array [.matcher .anyInt])]) "$"
          (.object [("a", .array [.string "x", .null])]) ∧
      ∃ q : Place, q.render "$" = "$.a[0]" ∧
        (rejected "$.a[0]" .anyInt (.string "x")).ShownAt
          (.object [("a", .array [.matcher .anyInt])])
          (.object [("a", .array [.string "x", .null])]) q := by
  have hexpected : (Value.object [("a", .array [.matcher .anyInt])]).Canonical :=
    ⟨by decide +kernel, ⟨trivial, trivial⟩, trivial⟩
  have hactual : (Value.object [("a", .array [.string "x", .null])]).Canonical :=
    ⟨by decide +kernel, ⟨trivial, trivial, trivial⟩, trivial⟩
  have hreport : compare {} (.object [("a", .array [.matcher .anyInt])]) "$"
        (.object [("a", .array [.string "x", .null])]) =
      [rejected "$.a[0]" .anyInt (.string "x"), added "$.a[1]" .null] := by rfl
  have hmem : rejected "$.a[0]" .anyInt (.string "x") ∈
      compare {} (.object [("a", .array [.matcher .anyInt])]) "$"
        (.object [("a", .array [.string "x", .null])]) := by
    rw [hreport]
    exact List.mem_cons_self
  exact ⟨⟨rfl, rfl⟩, hexpected, hactual, hmem,
    exists_place_of_mem_compare ⟨rfl, rfl⟩ hexpected hactual "$" hmem⟩

end Json

end Expectation
