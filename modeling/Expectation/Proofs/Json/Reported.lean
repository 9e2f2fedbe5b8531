import Expectation.Proofs.AnyOrder

/-!
# What a comparison reports, and why

A difference is built in a dozen places of the comparison, some of them inside
loops and behind guards.  `Reported` lists these places once, each with the
conditions under which it is reached: the two values met at the path of the
difference, or the step that leads on to a value, an item or a member on one
side or on both.  Whatever is true of all reports is then shown by cases, and,
where a report comes from further down, by induction.

Items are visited in order of their index, as far as the longer array goes.
`stepReport` says what is reported at one index, and the loop over items is the
run of these reports.

## Main results

* `compareItems_eq_flatMap`: the report on two arrays, index by index.
* `exists_of_mem_compareUnordered`: a report on arrays in any order is about their
  lengths, or about an item of each.
* `exists_of_mem_compareItems`, `exists_of_mem_compareMembers`,
  `exists_of_mem_addedMembers`: what the other loops report, and about what.
* `reported_of_mem_compare`: every difference is reported for one of the reasons.
-/

namespace Expectation.Json

/-! ## Values that are told apart -/

/-- Values that count as different: numbers by what they are worth, all others as
they are. -/
def Value.Unequal (v w : Value) : Prop :=
  match v.number?, w.number? with
  | some x, some y => x.numEq y = false
  | _, _ => v ≠ w

/-- The lengths of two arrays are shown in words. -/
def lengthsDiffer (path : String) (items others : List Value) : Difference :=
  ⟨path, .changed, .description (lengthText items.length),
    .description (lengthText others.length)⟩

/-- A matcher is shown with the value that it does not accept. -/
def rejected (path : String) (m : Matcher) (actual : Value) : Difference :=
  ⟨path, .matcherFailed, .description m.describe, .value actual⟩

/-! ## The reasons -/

/-- A difference is reported between two trees at a path. -/
inductive Reported (o : Options) : String → Value → Value → Difference → Prop where
  /-- A matcher does not accept what it stands for. -/
  | rejected {path : String} {m : Matcher} {actual : Value}
      (h : m.accepts (some actual) = false) :
      Reported o path (.matcher m) actual (rejected path m actual)
  /-- Something stands where nothing is expected. -/
  | added {path : String} {actual : Value} (h : actual ≠ .null) :
      Reported o path .null actual (added path actual)
  /-- Nothing stands where something is expected. -/
  | removed {path : String} {expected : Value} (h : expected ≠ .null) :
      Reported o path expected .null (removed path expected)
  | mismatched {path : String} {expected actual : Value}
      (h : expected.typeName ≠ actual.typeName) :
      Reported o path expected actual (mismatched path expected actual)
  | changed {path : String} {expected actual : Value}
      (htype : expected.typeName = actual.typeName) (h : expected.Unequal actual) :
      Reported o path expected actual (changed path expected actual)
  /-- Arrays whose order does not count are told apart by their lengths. -/
  | lengths {path : String} {items others : List Value} (horder : o.unordered path = true)
      (h : items.length ≠ others.length) :
      Reported o path (.array items) (.array others) (lengthsDiffer path items others)
  /-- An item without a match is shown with one that nobody claimed. -/
  | unmatched {path : String} {items others : List Value} {i j : Nat} {v w : Value}
      (horder : o.unordered path = true) (hv : items[i]? = some v) (hw : others[j]? = some w) :
      Reported o path (.array items) (.array others) (changed (indexPath path i) v w)
  /-- A difference between items at one index. -/
  | item {path : String} {items others : List Value} {i : Nat} {v w : Value} {d : Difference}
      (horder : o.unordered path = false) (hcounts : o.ignores (indexPath path i) = false)
      (hv : items[i]? = some v) (hw : others[i]? = some w)
      (h : Reported o (indexPath path i) v w d) :
      Reported o path (.array items) (.array others) d
  /-- An item past the end of the actual array. -/
  | removedItem {path : String} {items others : List Value} {i : Nat} {v : Value}
      (horder : o.unordered path = false) (hv : items[i]? = some v) (hw : others[i]? = none) :
      Reported o path (.array items) (.array others) (removed (indexPath path i) v)
  /-- An item past the end of the expected array. -/
  | addedItem {path : String} {items others : List Value} {i : Nat} {w : Value}
      (horder : o.unordered path = false) (hv : items[i]? = none) (hw : others[i]? = some w) :
      Reported o path (.array items) (.array others) (added (indexPath path i) w)
  /-- A difference between members at one key. -/
  | member {path k : String} {members others : List (String × Value)} {v w : Value}
      {d : Difference} (hcounts : o.ignores (keyPath path k) = false)
      (hv : (k, v) ∈ members) (hw : lookup k others = some w)
      (h : Reported o (keyPath path k) v w d) :
      Reported o path (.object members) (.object others) d
  /-- A member that only the expected object has. -/
  | removedMember {path k : String} {members others : List (String × Value)} {v : Value}
      (hcounts : o.ignores (keyPath path k) = false)
      (hv : (k, v) ∈ members) (hw : lookup k others = none) :
      Reported o path (.object members) (.object others) (removed (keyPath path k) v)
  /-- A member that only the actual object has. -/
  | addedMember {path k : String} {members others : List (String × Value)} {w : Value}
      (hcounts : o.ignores (keyPath path k) = false)
      (hv : lookup k members = none) (hw : (k, w) ∈ others) :
      Reported o path (.object members) (.object others) (added (keyPath path k) w)

variable {o : Options} {path : String} {d : Difference}

/-- Where something is reported, the path is not left out. -/
theorem counts_of_mem_compare {expected actual : Value}
    (h : d ∈ compare o expected path actual) : o.ignores path = false := by
  cases hpath : o.ignores path with
  | true =>
      rw [compare_of_ignores hpath] at h
      exact absurd h List.not_mem_nil
  | false => rfl

/-! ## Single values -/

theorem Value.typeName_of_number? {v : Value} {x : Binary64} (h : v.number? = some x) :
    v.typeName = "number" := by
  cases v <;> simp_all [Value.number?, Value.typeName]

theorem Value.typeName_of_number?_eq_none {v : Value} (h : v.number? = none) :
    v.typeName ≠ "number" := by
  cases v <;> simp_all [Value.number?, Value.typeName]

theorem reported_of_mem_checkMatcher {m : Matcher} {actual : Value}
    (h : d ∈ checkMatcher path m actual) : Reported o path (.matcher m) actual d := by
  obtain ⟨hrefused, hd⟩ := List.mem_ite_nil_left.mp h
  rw [Bool.or_eq_true, not_or, Bool.not_eq_true, Bool.not_eq_true] at hrefused
  rw [List.mem_singleton.mp hd]
  exact .rejected hrefused.2

/-- Where a number is expected, another number or a value of another type is
reported. -/
theorem reported_of_mem_compareNumber {expected actual : Value}
    (hnumber : expected.isNumber = true) (h : d ∈ compareNumber path expected actual) :
    Reported o path expected actual d := by
  obtain ⟨x, hx⟩ := Option.isSome_iff_exists.mp hnumber
  have htype := Value.typeName_of_number? hx
  cases hy : actual.number? with
  | none =>
      have hother := Value.typeName_of_number?_eq_none hy
      simp only [compareNumber, hx, hy, List.mem_singleton] at h
      subst h
      exact .mismatched fun heq => hother (heq ▸ htype)
  | some y =>
      simp only [compareNumber, hx, hy] at h
      obtain ⟨hne, hd⟩ := List.mem_ite_nil_left.mp h
      rw [List.mem_singleton.mp hd]
      refine .changed (htype.trans (Value.typeName_of_number? hy).symm) ?_
      simpa [Value.Unequal, hx, hy] using hne

/-- Where nothing is found, what is expected is reported as missing. -/
theorem reported_of_mem_unless_null {expected actual : Value} {ds : List Difference}
    (hexpected : expected ≠ .null) (hds : d ∈ ds → Reported o path expected actual d)
    (h : d ∈ if actual.isNull then [removed path expected] else ds) :
    Reported o path expected actual d := by
  split at h
  · next hnull =>
    obtain rfl := Value.isNull_iff.mp hnull
    rw [List.mem_singleton.mp h]
    exact .removed hexpected
  · exact hds h

/-- Values of different types are reported themselves. -/
theorem reported_of_mem_compare_mismatched {expected actual : Value}
    (hmatcher : expected.matcher? = none) (hexpected : expected ≠ .null)
    (htype : expected.typeName ≠ actual.typeName) (h : d ∈ compare o expected path actual) :
    Reported o path expected actual d := by
  rw [compare_of_typeName_ne (counts_of_mem_compare h) hmatcher hexpected htype] at h
  refine reported_of_mem_unless_null hexpected (fun hd => ?_) h
  rw [List.mem_singleton.mp hd]
  exact .mismatched htype

/-- Where a scalar is expected, the two values themselves are reported. -/
theorem reported_of_mem_compare_scalar {expected actual : Value}
    (hscalar : expected.isScalar = true) (h : d ∈ compare o expected path actual) :
    Reported o path expected actual d := by
  have hpath := counts_of_mem_compare h
  cases hnumber : expected.isNumber with
  | true =>
      rw [compare_of_number hpath hnumber] at h
      refine reported_of_mem_unless_null ?_ (reported_of_mem_compareNumber hnumber) h
      rintro rfl
      exact absurd hnumber Bool.false_ne_true
  | false =>
      cases expected with
      | null =>
          rw [compare_null hpath] at h
          obtain ⟨hnull, hd⟩ := List.mem_ite_nil_left.mp h
          rw [List.mem_singleton.mp hd]
          exact .added fun hnone => hnull (Value.isNull_iff.mpr hnone)
      | bool a =>
          cases actual with
          | bool b =>
              rw [compare_bools hpath] at h
              obtain ⟨hne, hd⟩ := List.mem_ite_nil_left.mp h
              rw [List.mem_singleton.mp hd]
              exact .changed rfl (by simpa [Value.Unequal, Value.number?] using hne)
          | _ =>
              refine reported_of_mem_compare_mismatched rfl (by simp) ?_ h
              simp [Value.typeName]
      | string s =>
          cases actual with
          | string t =>
              rw [compare_strings hpath] at h
              obtain ⟨hne, hd⟩ := List.mem_ite_nil_left.mp h
              rw [List.mem_singleton.mp hd]
              exact .changed rfl (by simpa [Value.Unequal, Value.number?] using hne)
          | _ =>
              refine reported_of_mem_compare_mismatched rfl (by simp) ?_ h
              simp [Value.typeName]
      | _ => simp_all [Value.isScalar, Value.isNumber, Value.number?]

/-! ## Arrays -/

/-- What is reported where one step leads to a value in either tree or in both. -/
def stepReport (o : Options) (path : String) : Option Value → Option Value → List Difference
  | some v, some w => compare o v path w
  | some v, none => [removed path v]
  | none, some w => [added path w]
  | none, none => []

/-- A run over `n + 1` indices is a report at the first and a run over the others. -/
theorem flatMap_range_succ {α : Type} (f : Nat → List α) (n : Nat) :
    (List.range (n + 1)).flatMap f = f 0 ++ (List.range n).flatMap fun j => f (j + 1) := by
  rw [List.range_succ_eq_map, List.flatMap_cons, List.flatMap_map]

theorem addedItems_eq_flatMap (path : String) (i : Nat) (others : List Value) :
    addedItems path i others =
      (List.range others.length).flatMap fun j =>
        stepReport o (indexPath path (i + j)) none others[j]? := by
  induction others generalizing i with
  | nil => rfl
  | cons w ws ih =>
      rw [addedItems, ih, List.length_cons, flatMap_range_succ]
      simp [stepReport, Nat.add_assoc, Nat.add_comm 1]

/-- **Arrays are reported index by index**, as far as the longer one goes. -/
theorem compareItems_eq_flatMap (o : Options) (path : String) (i : Nat)
    (items others : List Value) :
    compareItems o path i items others =
      (List.range (max items.length others.length)).flatMap fun j =>
        stepReport o (indexPath path (i + j)) items[j]? others[j]? := by
  induction items generalizing i others with
  | nil =>
      rw [compareItems, addedItems_eq_flatMap (o := o)]
      simp
  | cons v vs ih =>
      cases others with
      | nil =>
          rw [compareItems, ih]
          simp [flatMap_range_succ, stepReport, Nat.add_assoc, Nat.add_comm 1]
      | cons w ws =>
          rw [compareItems, ih, List.length_cons, List.length_cons, Nat.succ_max_succ,
            flatMap_range_succ]
          simp [stepReport, Nat.add_assoc, Nat.add_comm 1]

theorem getElem?_itemTrials (o : Options) (path : String) (i : Nat) (items : List Value)
    (j : Nat) : (itemTrials o path i items)[j]? =
      items[j]?.map fun v w => compare o v (indexPath path (i + j)) w := by
  induction items generalizing i j with
  | nil => rfl
  | cons v vs ih =>
      cases j with
      | zero => rfl
      | succ j =>
          rw [itemTrials, List.getElem?_cons_succ, List.getElem?_cons_succ, ih,
            Nat.add_right_comm, Nat.add_assoc]

/-- **Arrays in any order** are reported by their lengths, or item by item, each
next to one that nobody claimed.  An item that is left out matches anything, so
it is never left over. -/
theorem exists_of_mem_compareUnordered {items others : List Value}
    (h : d ∈ compareUnordered path (itemTrials o path 0 items) items others) :
    (items.length ≠ others.length ∧ d = lengthsDiffer path items others) ∨
      ∃ (i j : Nat) (v w : Value), items[i]? = some v ∧ others[j]? = some w ∧
        o.ignores (indexPath path i) = false ∧ d = changed (indexPath path i) v w := by
  unfold compareUnordered at h
  split at h
  · next hlength => exact .inl ⟨hlength, List.mem_singleton.mp h⟩
  · next hlength =>
    obtain ⟨⟨i, j⟩, hpair, rfl⟩ := List.mem_map.mp h
    have hsame : (itemTrials o path 0 items).length = others.length := by
      rw [length_itemTrials]
      exact not_not.mp hlength
    obtain ⟨hi, k, rfl, hk⟩ := Pairing.exists_partner_of_mem_unmatched hsame hpair
    rw [length_itemTrials] at hi
    refine .inr ⟨i, k, items[i], others[k], List.getElem?_eq_getElem hi,
      List.getElem?_eq_getElem hk, ?_, by simp [changed, hi, hk]⟩
    obtain ⟨trial, w, htrial, -, hrefused⟩ :=
      Pairing.exists_refused_of_mem_unmatched hsame hpair
    rw [getElem?_itemTrials, Nat.zero_add, Option.map_eq_some_iff] at htrial
    obtain ⟨v, -, rfl⟩ := htrial
    by_contra hignored
    rw [Bool.not_eq_false] at hignored
    simp [compare_of_ignores hignored] at hrefused

/-- **Arrays in order** are reported by the items at one index, or by an item past the end of
the other array. -/
theorem exists_of_mem_compareItems {items others : List Value}
    (h : d ∈ compareItems o path 0 items others) :
    ∃ i : Nat,
      (∃ v w, items[i]? = some v ∧ others[i]? = some w ∧ d ∈ compare o v (indexPath path i) w) ∨
      (∃ v, items[i]? = some v ∧ others[i]? = none ∧ d = removed (indexPath path i) v) ∨
      ∃ w, items[i]? = none ∧ others[i]? = some w ∧ d = added (indexPath path i) w := by
  rw [compareItems_eq_flatMap] at h
  obtain ⟨i, -, hi⟩ := List.mem_flatMap.mp h
  rw [Nat.zero_add] at hi
  refine ⟨i, ?_⟩
  cases hv : items[i]? with
  | some v =>
      cases hw : others[i]? with
      | some w =>
          rw [hv, hw] at hi
          exact .inl ⟨v, w, rfl, rfl, hi⟩
      | none =>
          rw [hv, hw] at hi
          exact .inr (.inl ⟨v, rfl, rfl, List.mem_singleton.mp hi⟩)
  | none =>
      cases hw : others[i]? with
      | some w =>
          rw [hv, hw] at hi
          exact .inr (.inr ⟨w, rfl, rfl, List.mem_singleton.mp hi⟩)
      | none =>
          rw [hv, hw] at hi
          exact absurd hi List.not_mem_nil

/-! ## Objects -/

/-- **Expected members that count** are reported by what is found at their keys. -/
theorem exists_of_mem_compareMembers {members others : List (String × Value)}
    (h : d ∈ compareMembers o path others members) :
    ∃ k v, (k, v) ∈ members ∧ o.ignores (keyPath path k) = false ∧
      ((∃ w, lookup k others = some w ∧ d ∈ compare o v (keyPath path k) w) ∨
        (lookup k others = none ∧ d = removed (keyPath path k) v)) := by
  rw [compareMembers_eq_flatMap] at h
  obtain ⟨⟨k, v⟩, hmem, hk⟩ := List.mem_flatMap.mp h
  unfold memberReport at hk
  split at hk
  · exact absurd hk List.not_mem_nil
  · next hcompared =>
    rw [Bool.or_eq_true, not_or, Bool.not_eq_true] at hcompared
    refine ⟨k, v, hmem, hcompared.1, ?_⟩
    split at hk
    · next w hw => exact .inl ⟨w, hw, hk⟩
    · next hw => exact .inr ⟨hw, List.mem_singleton.mp hk⟩

/-- **Actual members that count** are reported if their keys are new. -/
theorem exists_of_mem_addedMembers {members others : List (String × Value)}
    (h : d ∈ addedMembers o path members others) :
    ∃ k w, (k, w) ∈ others ∧ o.ignores (keyPath path k) = false ∧ lookup k members = none ∧
      d = added (keyPath path k) w := by
  rw [addedMembers_eq_flatMap] at h
  obtain ⟨⟨k, w⟩, hmem, hk⟩ := List.mem_flatMap.mp h
  obtain ⟨hcompared, hd⟩ := List.mem_ite_nil_left.mp hk
  rw [Bool.or_eq_true, not_or, Bool.not_eq_true, Bool.not_eq_true] at hcompared
  exact ⟨k, w, hmem, hcompared.2, by simpa using hcompared.1, List.mem_singleton.mp hd⟩

/-! ## All trees -/

/-- **Every difference is reported for a reason.** -/
theorem reported_of_mem_compare {expected actual : Value}
    (h : d ∈ compare o expected path actual) : Reported o path expected actual d := by
  induction expected generalizing path actual d with
  | matcher m =>
      rw [compare_matcher (counts_of_mem_compare h)] at h
      exact reported_of_mem_checkMatcher h
  | array items ih =>
      have hpath := counts_of_mem_compare h
      cases actual with
      | array others =>
          cases horder : o.unordered path with
          | true =>
              rw [compare_arrays_of_unordered hpath horder] at h
              rcases exists_of_mem_compareUnordered h with
                ⟨hlength, rfl⟩ | ⟨i, j, v, w, hv, hw, -, rfl⟩
              · exact .lengths horder hlength
              · exact .unmatched horder hv hw
          | false =>
              rw [compare_arrays_of_kept hpath horder] at h
              obtain ⟨i, ⟨v, w, hv, hw, hd⟩ | ⟨v, hv, hw, rfl⟩ | ⟨w, hv, hw, rfl⟩⟩ :=
                exists_of_mem_compareItems h
              · exact .item horder (counts_of_mem_compare hd) hv hw
                  (ih v (List.mem_of_getElem? hv) hd)
              · exact .removedItem horder hv hw
              · exact .addedItem horder hv hw
      | _ =>
          refine reported_of_mem_compare_mismatched rfl (by simp) ?_ h
          simp [Value.typeName]
  | object members ih =>
      have hpath := counts_of_mem_compare h
      cases actual with
      | object others =>
          rw [compare_objects hpath] at h
          rcases List.mem_append.mp h with h | h
          · obtain ⟨k, v, hmem, hcounts, ⟨w, hw, hd⟩ | ⟨hw, rfl⟩⟩ :=
              exists_of_mem_compareMembers h
            · exact .member hcounts hmem hw (ih k v hmem hd)
            · exact .removedMember hcounts hmem hw
          · obtain ⟨k, w, hmem, hcounts, hnew, rfl⟩ := exists_of_mem_addedMembers h
            exact .addedMember hcounts hnew hmem
      | _ =>
          refine reported_of_mem_compare_mismatched rfl (by simp) ?_ h
          simp [Value.typeName]
  | _ => exact reported_of_mem_compare_scalar rfl h

end Expectation.Json
