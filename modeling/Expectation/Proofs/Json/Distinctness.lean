import Expectation.Proofs.Json.Addressing
import Expectation.Proofs.Json.Reported
import Expectation.Proofs.Pairing.Matching

/-!
# Every path is reported once

A comparison meets a place of the two trees once, and what it reports there is a single
difference: at the place itself, or at a step that only one of the trees can take.  Everything
else comes from further steps.  As long as keys are plain, paths behind different steps differ,
so that no path stands in a report twice.

The argument is about paths only.  `DistinctBelow` says of a list of paths that they lie behind a
path and differ, and that it is built up from steps; each loop of the comparison is a run over
steps of which none comes twice.

## Main results

* `DistinctBelow.flatMap`: paths behind different steps are different.
* `here_compare`: what is reported where a comparison goes no further.
* `distinctBelow_compare`: the paths of a report are different.
-/

namespace Expectation.Json

open Json.Options (covers)

/-! ## Paths behind a path -/

/-- The paths lie behind a path, and none of them stands there twice. -/
structure DistinctBelow (path : String) (xs : List String) : Prop where
  covered : ∀ x ∈ xs, covers path x = true
  nodup : xs.Nodup

namespace DistinctBelow

variable {path : String} {xs ys : List String}

theorem of_sublist (h : xs.Sublist [path]) : DistinctBelow path xs where
  covered _ hx := List.mem_singleton.mp (h.subset hx) ▸ covers_refl path
  nodup := (List.nodup_singleton path).sublist h

theorem append (hxs : DistinctBelow path xs) (hys : DistinctBelow path ys)
    (hdisjoint : ∀ x ∈ xs, x ∉ ys) : DistinctBelow path (xs ++ ys) where
  covered x hx := (List.mem_append.mp hx).elim (hxs.covered x) (hys.covered x)
  nodup := List.nodup_append.mpr
    ⟨hxs.nodup, hys.nodup, fun x hx _ hy heq => hdisjoint x hx (heq ▸ hy)⟩

/-- **Paths behind different steps are different.** -/
theorem flatMap {α : Type} {l : List α} {f : α → List String} (step : α → Step)
    (hsteps : (l.map step).Nodup) (hplain : ∀ a ∈ l, (step a).Plain)
    (h : ∀ a ∈ l, DistinctBelow ((step a).extend path) (f a)) :
    DistinctBelow path (l.flatMap f) where
  covered x hx := by
    obtain ⟨a, ha, hxa⟩ := List.mem_flatMap.mp hx
    exact covers_trans (covers_extend path (step a)) ((h a ha).covered x hxa)
  nodup := by
    refine List.pairwise_flatMap.mpr ⟨fun a ha => (h a ha).nodup, ?_⟩
    refine (List.pairwise_map.mp hsteps).imp_of_mem ?_
    rintro a b ha hb hne x hx y hy rfl
    exact hne (step_eq_of_covers (hplain a ha) (hplain b hb) ((h a ha).covered x hx)
      ((h b hb).covered x hy))

/-- Paths behind items of an array, none of which is visited twice. -/
theorem items {α : Type} {l : List α} {f : α → List String} (index : α → Nat)
    (hnodup : (l.map index).Nodup)
    (h : ∀ a ∈ l, DistinctBelow (indexPath path (index a)) (f a)) :
    DistinctBelow path (l.flatMap f) := by
  refine flatMap (fun a => .index (index a)) ?_ (fun _ _ => trivial) h
  simpa [Function.comp_def] using hnodup.map (f := Step.index) fun _ _ => Step.index.inj

/-- Paths behind the members of an object. -/
theorem members {members : List (String × Value)} {f : String × Value → List String}
    (hasc : Ascending members) (hplain : ∀ m ∈ members, IsPlainKey m.1)
    (h : ∀ m ∈ members, DistinctBelow (keyPath path m.1) (f m)) :
    DistinctBelow path (members.flatMap f) := by
  refine flatMap (fun m => .key m.1) ?_ hplain h
  simpa [Function.comp_def] using
    (keys_nodup_of_ascending hasc).map (f := Step.key) fun _ _ => Step.key.inj

/-- Paths behind the members of two objects, where the second object counts at new keys only. -/
theorem append_members {members others : List (String × Value)}
    {f g : String × Value → List String} (hasc : Ascending members) (hasc' : Ascending others)
    (hplain : ∀ m ∈ members, IsPlainKey m.1) (hplain' : ∀ n ∈ others, IsPlainKey n.1)
    (hf : ∀ m ∈ members, DistinctBelow (keyPath path m.1) (f m))
    (hg : ∀ n ∈ others, DistinctBelow (keyPath path n.1) (g n))
    (hnew : ∀ m ∈ members, ∀ n ∈ others, m.1 = n.1 → g n = []) :
    DistinctBelow path (members.flatMap f ++ others.flatMap g) := by
  refine append (.members hasc hplain hf) (.members hasc' hplain' hg) fun x hx hx' => ?_
  obtain ⟨m, hm, hxm⟩ := List.mem_flatMap.mp hx
  obtain ⟨n, hn, hxn⟩ := List.mem_flatMap.mp hx'
  have hstep : Step.key m.1 = .key n.1 := step_eq_of_covers (hplain m hm) (hplain' n hn)
    ((hf m hm).covered x hxm) ((hg n hn).covered x hxn)
  rw [hnew m hm n hn (Step.key.inj hstep)] at hxn
  exact List.not_mem_nil hxn

end DistinctBelow

/-! ## Where a comparison goes no further -/

/-- At most one difference is reported, and at the path itself. -/
def Here (path : String) (ds : List Difference) : Prop :=
  (ds.map Difference.path).Sublist [path]

variable {o : Options} {path : String}

@[simp] theorem here_nil : Here path [] := List.nil_sublist _

theorem here_singleton {d : Difference} (h : d.path = path) : Here path [d] := by
  simp [Here, h]

@[simp] theorem here_added (v : Value) : Here path [added path v] := here_singleton rfl

@[simp] theorem here_removed (v : Value) : Here path [removed path v] := here_singleton rfl

@[simp] theorem here_changed (v w : Value) : Here path [changed path v w] := here_singleton rfl

@[simp] theorem here_mismatched (v w : Value) : Here path [mismatched path v w] :=
  here_singleton rfl

theorem Here.ite {ds es : List Difference} {c : Prop} [Decidable c] (hds : Here path ds)
    (hes : Here path es) : Here path (if c then ds else es) := by
  split
  · exact hds
  · exact hes

theorem here_checkMatcher (m : Matcher) (actual : Value) : Here path (checkMatcher path m actual) :=
  here_nil.ite (here_singleton rfl)

theorem here_compareNumber (expected actual : Value) :
    Here path (compareNumber path expected actual) := by
  unfold compareNumber
  split
  · exact here_nil.ite (here_changed expected actual)
  · exact here_mismatched expected actual

theorem here_of_typeName_ne {expected actual : Value} (hpath : o.ignores path = false)
    (hmatcher : expected.matcher? = none) (hnull : expected ≠ .null)
    (htype : expected.typeName ≠ actual.typeName) : Here path (compare o expected path actual) := by
  rw [compare_of_typeName_ne hpath hmatcher hnull htype]
  exact (here_removed _).ite (here_mismatched _ _)

/-- **Where a comparison goes no further**, because not both values are arrays and not both are
objects, it reports at most one difference, and at the path itself. -/
theorem here_compare {expected actual : Value}
    (harrays : ∀ items others, expected = .array items → actual ≠ .array others)
    (hobjects : ∀ members others, expected = .object members → actual ≠ .object others) :
    Here path (compare o expected path actual) := by
  cases hpath : o.ignores path with
  | true =>
      rw [compare_of_ignores hpath]
      exact here_nil
  | false =>
      cases expected with
      | matcher m =>
          rw [compare_matcher hpath]
          exact here_checkMatcher m actual
      | null =>
          rw [compare_null hpath]
          exact here_nil.ite (here_added actual)
      | array items =>
          cases actual with
          | array others => exact absurd rfl (harrays items others rfl)
          | _ => exact here_of_typeName_ne hpath rfl (by simp) (by simp [Value.typeName])
      | object members =>
          cases actual with
          | object others => exact absurd rfl (hobjects members others rfl)
          | _ => exact here_of_typeName_ne hpath rfl (by simp) (by simp [Value.typeName])
      | string s =>
          cases actual with
          | string t =>
              rw [compare_strings hpath]
              exact here_nil.ite (here_changed _ _)
          | _ => exact here_of_typeName_ne hpath rfl (by simp) (by simp [Value.typeName])
      | bool a =>
          cases actual with
          | bool b =>
              rw [compare_bools hpath]
              exact here_nil.ite (here_changed _ _)
          | _ => exact here_of_typeName_ne hpath rfl (by simp) (by simp [Value.typeName])
      | _ =>
          rw [compare_of_number hpath rfl]
          exact (here_removed _).ite (here_compareNumber _ actual)

/-! ## Arrays and objects -/

/-- The paths of a report lie behind a path and are different. -/
abbrev ReportsOnce (path : String) (ds : List Difference) : Prop :=
  DistinctBelow path (ds.map Difference.path)

theorem Here.reportsOnce {ds : List Difference} (h : Here path ds) : ReportsOnce path ds :=
  .of_sublist h

/-- What one step leads to is reported once if the comparison there reports once. -/
theorem reportsOnce_stepReport {v w : Option Value}
    (h : ∀ x ∈ v, ∀ y ∈ w, ReportsOnce path (compare o x path y)) :
    ReportsOnce path (stepReport o path v w) := by
  cases v with
  | none =>
      cases w with
      | none => exact here_nil.reportsOnce
      | some y => exact (here_added y).reportsOnce
  | some x =>
      cases w with
      | none => exact (here_removed x).reportsOnce
      | some y => exact h x rfl y rfl

/-- Arrays whose order counts are reported index by index. -/
theorem reportsOnce_compareItems {items others : List Value}
    (h : ∀ v ∈ items, ∀ w ∈ others, ∀ p, ReportsOnce p (compare o v p w)) :
    ReportsOnce path (compareItems o path 0 items others) := by
  rw [ReportsOnce, compareItems_eq_flatMap, List.map_flatMap]
  refine DistinctBelow.items (fun j => 0 + j) (by simpa using List.nodup_range) ?_
  intro j _
  exact reportsOnce_stepReport fun v hv w hw =>
    h v (List.mem_of_getElem? hv) w (List.mem_of_getElem? hw) _

/-- Arrays in any order are reported by their lengths, or by the indices without a match. -/
theorem reportsOnce_compareUnordered (trials : List (Value → List Difference))
    (items others : List Value) :
    ReportsOnce path (compareUnordered path trials items others) := by
  unfold compareUnordered
  split
  · exact .of_sublist (List.Sublist.refl _)
  · rw [ReportsOnce, List.map_map, List.map_eq_flatMap]
    refine DistinctBelow.items Prod.fst ?_ fun _ _ => .of_sublist (List.Sublist.refl _)
    rw [Pairing.map_fst_unmatched]
    exact (Pairing.unclaimed_sorted 0 _).imp Nat.ne_of_lt

/-- At an expected member, the comparison goes on with the member of the other object. -/
theorem reportsOnce_memberReport {others : List (String × Value)} {k : String} {v : Value}
    (h : ∀ w, (k, w) ∈ others → ReportsOnce (keyPath path k) (compare o v (keyPath path k) w)) :
    ReportsOnce (keyPath path k) (memberReport o path others k v) := by
  unfold memberReport
  split
  · exact here_nil.reportsOnce
  · split
    · next w hw => exact h w (mem_of_lookup_eq_some hw)
    · exact (here_removed v).reportsOnce

/-- At an actual member, it is reported if its key is new. -/
theorem reportsOnce_additionReport (members : List (String × Value)) (k : String) (w : Value) :
    ReportsOnce (keyPath path k) (additionReport o path members k w) :=
  (here_nil.ite (here_added w)).reportsOnce

theorem additionReport_of_mem {members : List (String × Value)} {m : String × Value}
    (hm : m ∈ members) (w : Value) : additionReport o path members m.1 w = [] := by
  have hknown : (lookup m.1 members).isSome = true := lookup_isSome.mpr ⟨m.2, hm⟩
  simp [additionReport, hknown]

/-! ## All trees -/

/-- **Every path is reported once**, whatever the options say. -/
theorem reportsOnce_compare {expected actual : Value} (hexpected : expected.Canonical)
    (hactual : actual.Canonical) (hkeys : expected.PlainKeys) (hkeys' : actual.PlainKeys) :
    ReportsOnce path (compare o expected path actual) := by
  induction expected generalizing path actual with
  | array items ih =>
      cases actual with
      | array others =>
          cases hpath : o.ignores path with
          | true => exact compare_of_ignores hpath _ _ ▸ here_nil.reportsOnce
          | false =>
              cases horder : o.unordered path with
              | true =>
                  rw [compare_arrays_of_unordered hpath horder]
                  exact reportsOnce_compareUnordered _ items others
              | false =>
                  rw [compare_arrays_of_kept hpath horder]
                  exact reportsOnce_compareItems fun v hv w hw _ =>
                    ih v hv (hexpected.items v hv) (hactual.items w hw) (hkeys.items v hv)
                      (hkeys'.items w hw)
      | _ => exact (here_compare (by simp) (by simp)).reportsOnce
  | object members ih =>
      cases actual with
      | object others =>
          cases hpath : o.ignores path with
          | true => exact compare_of_ignores hpath _ _ ▸ here_nil.reportsOnce
          | false =>
              rw [ReportsOnce, compare_objects hpath, compareMembers_eq_flatMap,
                addedMembers_eq_flatMap, List.map_append, List.map_flatMap, List.map_flatMap]
              refine .append_members hexpected.ascending hactual.ascending hkeys.key hkeys'.key
                (fun m hm => reportsOnce_memberReport fun w hw => ?_)
                (fun n _ => reportsOnce_additionReport members n.1 n.2) fun m hm n _ heq => ?_
              · exact ih m.1 m.2 hm (hexpected.members m.1 m.2 hm) (hactual.members m.1 w hw)
                  (hkeys.members m.1 m.2 hm) (hkeys'.members m.1 w hw)
              · rw [← heq, additionReport_of_mem hm, List.map_nil]
      | _ => exact (here_compare (by simp) (by simp)).reportsOnce
  | _ => exact (here_compare (by simp) (by simp)).reportsOnce

end Expectation.Json
