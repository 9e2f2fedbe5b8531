import Expectation.Json.Comparison
import Expectation.Proofs.Json.Tree

/-!
# When an actual JSON tree agrees with an expected one

The comparison decides agreement along the way: it stops early at paths that
are left out, at matchers and at nulls, runs over the members of both objects
and over the longer of two arrays.  `Agrees` says in one place, and without
any list of differences, what has to hold of two trees; the comparison finds
nothing exactly then.

What the comparison does where two values meet is said once, by what they are,
and all that follows cites these equations.  Then the loops: each of them finds
nothing exactly when nothing is found at any single member or item, so the
induction over the expected tree only ever speaks about single values.

## Main results

* `compare_matcher`, `compare_of_number`, `compare_arrays`, `compare_objects`,
  `compare_of_typeName_ne`: the comparison of two values at a path that counts.
* `compare_congr`: where the options play no further part.
* `compareItems_eq_nil_iff`, `compareMembers_eq_nil_iff`,
  `addedMembers_eq_nil_iff`: what each loop has to find at every place.
* `compare_eq_nil_of_agrees`, `agrees_of_compare_eq_nil`: the two directions.
* `compare_eq_nil_iff_agrees`: no difference means agreement.
-/

namespace Expectation.Json

/-- The order of every array counts. -/
def Options.KeepsOrder (o : Options) : Prop :=
  o.ignoreArrayOrder = false ∧ o.ignoreArrayOrderPaths = []

theorem Options.KeepsOrder.unordered {o : Options} (h : o.KeepsOrder) (path : String) :
    o.unordered path = false := by
  obtain ⟨hall, hpaths⟩ := h
  simp [Options.unordered, hall, hpaths]

/-! ## Agreement -/

/-- An actual tree agrees with an expected one, which may hold matchers, at a
path. -/
inductive Agrees (o : Options) : String → Value → Value → Prop where
  /-- Anything agrees at a path that is left out. -/
  | ignored {path : String} {expected actual : Value} (h : o.ignores path = true) :
      Agrees o path expected actual
  /-- A matcher agrees with what it accepts. -/
  | accepted {path : String} {m : Matcher} {actual : Value}
      (h : m.accepts (some actual) = true) : Agrees o path (.matcher m) actual
  | null {path : String} : Agrees o path .null .null
  | string {path s : String} : Agrees o path (.string s) (.string s)
  | bool {path : String} {b : Bool} : Agrees o path (.bool b) (.bool b)
  /-- Numbers agree by value, whatever form they have. -/
  | number {path : String} {expected actual : Value} {x y : Binary64}
      (hx : expected.number? = some x) (hy : actual.number? = some y)
      (h : x.numEq y = true) : Agrees o path expected actual
  /-- Arrays agree item by item. -/
  | array {path : String} {items others : List Value}
      (hlength : items.length = others.length)
      (h : ∀ i v w, items[i]? = some v → others[i]? = some w →
        Agrees o (indexPath path i) v w) :
      Agrees o path (.array items) (.array others)
  /-- Objects agree when every member that is expected is there and agrees, and
  every member that is there is expected.  Members at paths that are left out
  do not count, nor does an expected member that is to be ignored. -/
  | object {path : String} {members others : List (String × Value)}
      (hpresent : ∀ k v, (k, v) ∈ members → o.ignores (keyPath path k) = false →
        v ≠ .matcher .ignore → ∃ w, lookup k others = some w)
      (h : ∀ k v w, (k, v) ∈ members → o.ignores (keyPath path k) = false →
        v ≠ .matcher .ignore → lookup k others = some w →
        Agrees o (keyPath path k) v w)
      (hexpected : ∀ k w, (k, w) ∈ others → o.ignores (keyPath path k) = false →
        ∃ v, (k, v) ∈ members) :
      Agrees o path (.object members) (.object others)

/-! ## Single values -/

theorem Value.isNull_iff {v : Value} : v.isNull = true ↔ v = .null := by
  cases v <;> simp [Value.isNull]

/-- Nothing is reported at a path that is left out. -/
theorem compare_of_ignores {o : Options} {path : String} (h : o.ignores path = true)
    (expected actual : Value) : compare o expected path actual = [] := by
  unfold compare
  rw [if_pos h]

/-- What is found at a path that is left out need not be looked at. -/
theorem compare_eq_nil_of_counts {o : Options} {path : String} {expected actual : Value}
    (h : o.ignores path = false → compare o expected path actual = []) :
    compare o expected path actual = [] := by
  cases hpath : o.ignores path with
  | true => exact compare_of_ignores hpath expected actual
  | false => exact h hpath

section Counting

variable {o : Options} {path : String} (hpath : o.ignores path = false)

include hpath

/-- A matcher is asked. -/
theorem compare_matcher (m : Matcher) (actual : Value) :
    compare o (.matcher m) path actual = checkMatcher path m actual :=
  if_neg (Bool.eq_false_iff.mp hpath)

/-- Where nothing is expected, anything is added. -/
theorem compare_null (actual : Value) :
    compare o .null path actual = if actual.isNull then [] else [added path actual] :=
  if_neg (Bool.eq_false_iff.mp hpath)

theorem compare_bools (a b : Bool) :
    compare o (.bool a) path (.bool b) =
      if a = b then [] else [changed path (.bool a) (.bool b)] :=
  if_neg (Bool.eq_false_iff.mp hpath)

theorem compare_strings (s t : String) :
    compare o (.string s) path (.string t) =
      if s = t then [] else [changed path (.string s) (.string t)] :=
  if_neg (Bool.eq_false_iff.mp hpath)

/-- Numbers are compared alike in all their forms. -/
theorem compare_of_number {expected : Value} (hnumber : expected.isNumber = true)
    (actual : Value) :
    compare o expected path actual =
      if actual.isNull then [removed path expected]
      else compareNumber path expected actual := by
  cases expected with
  | int | nat | float => exact if_neg (Bool.eq_false_iff.mp hpath)
  | _ => exact absurd hnumber Bool.false_ne_true

/-- The expected members are looked for first, then those that are not expected. -/
theorem compare_objects (members others : List (String × Value)) :
    compare o (.object members) path (.object others) =
      compareMembers o path others members ++ addedMembers o path members others :=
  if_neg (Bool.eq_false_iff.mp hpath)

/-- Items are compared where they stand, or by trial if their order does not count. -/
theorem compare_arrays (items others : List Value) :
    compare o (.array items) path (.array others) =
      if o.unordered path then compareUnordered path (itemTrials o path 0 items) items others
      else compareItems o path 0 items others :=
  if_neg (Bool.eq_false_iff.mp hpath)

theorem compare_arrays_of_kept (horder : o.unordered path = false) (items others : List Value) :
    compare o (.array items) path (.array others) = compareItems o path 0 items others :=
  (compare_arrays hpath items others).trans (if_neg (Bool.eq_false_iff.mp horder))

theorem compare_arrays_of_unordered (horder : o.unordered path = true)
    (items others : List Value) :
    compare o (.array items) path (.array others) =
      compareUnordered path (itemTrials o path 0 items) items others :=
  (compare_arrays hpath items others).trans (if_pos horder)

/-- **Values of different types are reported as such**; of a null next to another value, only
the other one is. -/
theorem compare_of_typeName_ne {expected actual : Value} (hmatcher : expected.matcher? = none)
    (hnull : expected ≠ .null) (htype : expected.typeName ≠ actual.typeName) :
    compare o expected path actual =
      if actual.isNull then [removed path expected] else [mismatched path expected actual] := by
  cases expected with
  | matcher m => exact absurd hmatcher (Option.some_ne_none m)
  | null => exact absurd rfl hnull
  | _ =>
      cases actual <;>
        first
        | exact absurd rfl htype
        | exact if_neg (Bool.eq_false_iff.mp hpath)

/-- So they do not agree. -/
theorem compare_ne_nil_of_typeName_ne {expected actual : Value}
    (hmatcher : expected.matcher? = none) (hnull : expected ≠ .null)
    (htype : expected.typeName ≠ actual.typeName) : compare o expected path actual ≠ [] := by
  rw [compare_of_typeName_ne hpath hmatcher hnull htype]
  split <;> exact List.cons_ne_nil _ _

/-- Where nothing is found, what is expected is missing. -/
theorem compare_of_null {expected : Value} (hmatcher : expected.matcher? = none)
    (hnull : expected ≠ .null) : compare o expected path .null = [removed path expected] := by
  have htype : expected.typeName ≠ Value.typeName .null := by
    cases expected <;> simp_all [Value.typeName]
  rw [compare_of_typeName_ne hpath hmatcher hnull htype]
  rfl

end Counting

/-- Nothing is reported where anything is accepted. -/
theorem compare_ignore (o : Options) (path : String) (actual : Value) :
    compare o (.matcher .ignore) path actual = [] :=
  compare_eq_nil_of_counts fun hpath => compare_matcher hpath .ignore actual

/-- **Where the comparison goes no further**, because not both values are arrays and not both
are objects, all that the options say is whether the path counts. -/
theorem compare_congr {o o' : Options} {path : String} {expected actual : Value}
    (hignores : o.ignores path = o'.ignores path)
    (harrays : ∀ items others, expected = .array items → actual ≠ .array others)
    (hobjects : ∀ members others, expected = .object members → actual ≠ .object others) :
    compare o expected path actual = compare o' expected path actual := by
  unfold compare
  rw [hignores]
  cases expected with
  | array items =>
      cases actual with
      | array others => exact absurd rfl (harrays items others rfl)
      | _ => rfl
  | object members =>
      cases actual with
      | object others => exact absurd rfl (hobjects members others rfl)
      | _ => rfl
  | _ => rfl

theorem Value.any_isIgnore_eq_true_iff (v : Value) :
    v.matcher?.any Matcher.isIgnore = true ↔ v = .matcher .ignore := by
  cases v with
  | matcher m => cases m <;> simp [Value.matcher?, Matcher.isIgnore]
  | _ => simp [Value.matcher?]

/-- A matcher has nothing against exactly what it accepts. -/
theorem checkMatcher_eq_nil_iff (path : String) (m : Matcher) (actual : Value) :
    checkMatcher path m actual = [] ↔ m.accepts (some actual) = true := by
  have hignore : m.isIgnore = true → m.accepts (some actual) = true := by
    intro h
    cases m <;> simp_all [Matcher.isIgnore, Matcher.accepts]
  unfold checkMatcher
  by_cases haccepts : m.accepts (some actual) = true
  · simp [haccepts]
  · have hnot : m.isIgnore ≠ true := fun h => haccepts (hignore h)
    simp [haccepts, hnot]

theorem compareNumber_eq_nil_iff (path : String) (expected actual : Value) :
    compareNumber path expected actual = [] ↔
      ∃ x y, expected.number? = some x ∧ actual.number? = some y ∧
        x.numEq y = true := by
  unfold compareNumber
  cases hx : expected.number? with
  | none => simp
  | some x =>
      cases hy : actual.number? with
      | none => simp
      | some y => simp

/-! ## The loops -/

theorem addedItems_eq_nil_iff (path : String) (i : Nat) (others : List Value) :
    addedItems path i others = [] ↔ others = [] := by
  cases others <;> simp [addedItems]

/-- The items of two arrays have nothing to report exactly when there are as
many on both sides and none of the pairs has. -/
theorem compareItems_eq_nil_iff (o : Options) (path : String) (i : Nat)
    (items others : List Value) :
    compareItems o path i items others = [] ↔
      items.length = others.length ∧
        ∀ j v w, items[j]? = some v → others[j]? = some w →
          compare o v (indexPath path (i + j)) w = [] := by
  induction items generalizing i others with
  | nil =>
      rw [compareItems, addedItems_eq_nil_iff]
      constructor
      · rintro rfl
        exact ⟨rfl, by simp⟩
      · rintro ⟨hlength, -⟩
        exact List.eq_nil_of_length_eq_zero hlength.symm
  | cons v vs ih =>
      cases others with
      | nil => simp [compareItems]
      | cons w ws =>
          rw [compareItems, List.append_eq_nil_iff, ih]
          simp only [List.length_cons, Nat.add_right_cancel_iff]
          constructor
          · rintro ⟨hhead, hlength, htail⟩
            refine ⟨hlength, ?_⟩
            intro j u z hu hz
            cases j with
            | zero =>
                obtain rfl : v = u := by simpa using hu
                obtain rfl : w = z := by simpa using hz
                exact hhead
            | succ j =>
                have hstep := htail j u z (by simpa using hu) (by simpa using hz)
                rwa [show i + 1 + j = i + (j + 1) by omega] at hstep
          · rintro ⟨hlength, hall⟩
            refine ⟨hall 0 v w rfl rfl, hlength, ?_⟩
            intro j u z hu hz
            have hstep := hall (j + 1) u z (by simpa using hu) (by simpa using hz)
            rwa [show i + (j + 1) = i + 1 + j by omega] at hstep

/-- What is reported at a single expected member. -/
def memberReport (o : Options) (path : String) (others : List (String × Value))
    (k : String) (v : Value) : List Difference :=
  if o.ignores (keyPath path k) || v.matcher?.any Matcher.isIgnore then []
  else match lookup k others with
    | some w => compare o v (keyPath path k) w
    | none => [removed (keyPath path k) v]

/-- What is reported at a single actual member that may not be expected. -/
def additionReport (o : Options) (path : String) (members : List (String × Value))
    (k : String) (w : Value) : List Difference :=
  if (lookup k members).isSome || o.ignores (keyPath path k) then []
  else [added (keyPath path k) w]

theorem compareMembers_eq_flatMap (o : Options) (path : String)
    (others members : List (String × Value)) :
    compareMembers o path others members =
      members.flatMap fun m => memberReport o path others m.1 m.2 := by
  induction members with
  | nil => rw [compareMembers, List.flatMap_nil]
  | cons member ms ih =>
      rw [compareMembers, ih, List.flatMap_cons]
      rfl

theorem addedMembers_eq_flatMap (o : Options) (path : String)
    (members others : List (String × Value)) :
    addedMembers o path members others =
      others.flatMap fun m => additionReport o path members m.1 m.2 := by
  induction others with
  | nil => rw [addedMembers, List.flatMap_nil]
  | cons other os ih =>
      rw [addedMembers, ih, List.flatMap_cons]
      rfl

theorem memberReport_eq_nil_iff (o : Options) (path : String)
    (others : List (String × Value)) (k : String) (v : Value) :
    memberReport o path others k v = [] ↔
      (o.ignores (keyPath path k) = false → v ≠ .matcher .ignore →
        ∃ w, lookup k others = some w ∧ compare o v (keyPath path k) w = []) := by
  unfold memberReport
  cases hpath : o.ignores (keyPath path k) with
  | true => simp
  | false =>
      have hv := v.any_isIgnore_eq_true_iff
      by_cases hignore : v = .matcher .ignore
      · subst hignore
        simp [Value.matcher?, Matcher.isIgnore]
      · have hnot : ¬ v.matcher?.any Matcher.isIgnore = true :=
          fun h => hignore (hv.mp h)
        rw [Bool.false_or, if_neg hnot]
        cases lookup k others <;> simp [hignore]

theorem additionReport_eq_nil_iff (o : Options) (path : String)
    (members : List (String × Value)) (k : String) (w : Value) :
    additionReport o path members k w = [] ↔
      (o.ignores (keyPath path k) = false → ∃ v, (k, v) ∈ members) := by
  unfold additionReport
  rw [← lookup_isSome]
  cases o.ignores (keyPath path k) <;> cases (lookup k members).isSome <;> simp

/-- The expected members have nothing to report exactly when each of them that
counts is found among the actual ones and has nothing to report there. -/
theorem compareMembers_eq_nil_iff (o : Options) (path : String)
    (others members : List (String × Value)) :
    compareMembers o path others members = [] ↔
      ∀ k v, (k, v) ∈ members → o.ignores (keyPath path k) = false →
        v ≠ .matcher .ignore →
        ∃ w, lookup k others = some w ∧ compare o v (keyPath path k) w = [] := by
  rw [compareMembers_eq_flatMap, List.flatMap_eq_nil_iff]
  simp only [memberReport_eq_nil_iff, Prod.forall]

/-- Nothing is added exactly when every actual member that counts is expected. -/
theorem addedMembers_eq_nil_iff (o : Options) (path : String)
    (members others : List (String × Value)) :
    addedMembers o path members others = [] ↔
      ∀ k w, (k, w) ∈ others → o.ignores (keyPath path k) = false →
        ∃ v, (k, v) ∈ members := by
  rw [addedMembers_eq_flatMap, List.flatMap_eq_nil_iff]
  simp only [additionReport_eq_nil_iff, Prod.forall]

/-! ## The two directions -/

/-- **Completeness.**  Nothing is reported for trees that agree. -/
theorem compare_eq_nil_of_agrees {o : Options} (ho : o.KeepsOrder) {path : String}
    {expected actual : Value} (h : Agrees o path expected actual) :
    compare o expected path actual = [] := by
  induction h with
  | ignored h => exact compare_of_ignores h _ _
  | @accepted path m actual h =>
      refine compare_eq_nil_of_counts fun hpath => ?_
      rw [compare_matcher hpath]
      exact (checkMatcher_eq_nil_iff path m actual).mpr h
  | null => exact compare_eq_nil_of_counts fun hpath => compare_null hpath .null
  | @string path s =>
      exact compare_eq_nil_of_counts fun hpath => (compare_strings hpath s s).trans (if_pos rfl)
  | @bool path b =>
      exact compare_eq_nil_of_counts fun hpath => (compare_bools hpath b b).trans (if_pos rfl)
  | @number path expected actual x y hx hy h =>
      refine compare_eq_nil_of_counts fun hpath => ?_
      have hnumber : expected.isNumber = true := Option.isSome_iff_exists.mpr ⟨x, hx⟩
      have hnull : actual.isNull = false := by
        cases actual <;> simp_all [Value.number?, Value.isNull]
      rw [compare_of_number hpath hnumber, hnull]
      exact (compareNumber_eq_nil_iff path expected actual).mpr ⟨x, y, hx, hy, h⟩
  | @array path items others hlength _ ih =>
      refine compare_eq_nil_of_counts fun hpath => ?_
      rw [compare_arrays_of_kept hpath (ho.unordered path), compareItems_eq_nil_iff]
      refine ⟨hlength, ?_⟩
      intro j v w hv hw
      rw [Nat.zero_add]
      exact ih j v w hv hw
  | @object path members others hpresent _ hexpected ih =>
      refine compare_eq_nil_of_counts fun hpath => ?_
      have hmembers : compareMembers o path others members = [] := by
        rw [compareMembers_eq_nil_iff]
        intro k v hmem hpath hignore
        obtain ⟨w, hw⟩ := hpresent k v hmem hpath hignore
        exact ⟨w, hw, ih k v w hmem hpath hignore hw⟩
      have hadded := (addedMembers_eq_nil_iff o path members others).mpr hexpected
      rw [compare_objects hpath, hmembers, hadded]
      rfl

/-- What stands at a path that is left out need not be looked at. -/
theorem Agrees.of_counts {o : Options} {path : String} {expected actual : Value}
    (h : o.ignores path = false → Agrees o path expected actual) :
    Agrees o path expected actual := by
  cases hpath : o.ignores path with
  | true => exact .ignored hpath
  | false => exact h hpath

/-- Where a number is expected, nothing is reported only for a number of the
same value. -/
theorem agrees_of_number {o : Options} {path : String} {expected actual : Value}
    (h : (if actual.isNull then [removed path expected]
      else compareNumber path expected actual) = []) :
    Agrees o path expected actual := by
  split at h
  · exact absurd h (List.cons_ne_nil _ _)
  · obtain ⟨x, y, hx, hy, hxy⟩ := (compareNumber_eq_nil_iff path expected actual).mp h
    exact .number hx hy hxy

/-- Where a scalar is expected, nothing is reported only for one that agrees. -/
theorem agrees_of_compare_scalar {o : Options} {path : String} {expected actual : Value}
    (hscalar : expected.isScalar = true) (hpath : o.ignores path = false)
    (h : compare o expected path actual = []) : Agrees o path expected actual := by
  cases hnumber : expected.isNumber with
  | true =>
      rw [compare_of_number hpath hnumber] at h
      exact agrees_of_number h
  | false =>
      cases expected with
      | null =>
          rw [compare_null hpath] at h
          cases actual with
          | null => exact .null
          | _ => exact absurd h (List.cons_ne_nil _ _)
      | bool a =>
          cases actual with
          | bool b =>
              rw [compare_bools hpath] at h
              obtain rfl : a = b := by simpa using h
              exact .bool
          | _ =>
              refine absurd h (compare_ne_nil_of_typeName_ne hpath rfl (by simp) ?_)
              simp [Value.typeName]
      | string s =>
          cases actual with
          | string t =>
              rw [compare_strings hpath] at h
              obtain rfl : s = t := by simpa using h
              exact .string
          | _ =>
              refine absurd h (compare_ne_nil_of_typeName_ne hpath rfl (by simp) ?_)
              simp [Value.typeName]
      | _ => simp_all [Value.isScalar, Value.isNumber, Value.number?]

/-- **Soundness.**  Trees for which nothing is reported agree. -/
theorem agrees_of_compare_eq_nil {o : Options} (ho : o.KeepsOrder) {path : String}
    {expected actual : Value} (h : compare o expected path actual = []) :
    Agrees o path expected actual := by
  refine .of_counts fun hpath => ?_
  induction expected generalizing path actual with
  | array items ih =>
      cases actual with
      | array others =>
          rw [compare_arrays_of_kept hpath (ho.unordered path), compareItems_eq_nil_iff] at h
          obtain ⟨hlength, hall⟩ := h
          refine .array hlength ?_
          intro i v w hv hw
          have hpair := hall i v w hv hw
          rw [Nat.zero_add] at hpair
          exact .of_counts (ih v (List.mem_of_getElem? hv) hpair)
      | _ =>
          refine absurd h (compare_ne_nil_of_typeName_ne hpath rfl (by simp) ?_)
          simp [Value.typeName]
  | object members ih =>
      cases actual with
      | object others =>
          rw [compare_objects hpath, List.append_eq_nil_iff, compareMembers_eq_nil_iff,
            addedMembers_eq_nil_iff] at h
          obtain ⟨hmembers, hadded⟩ := h
          refine .object ?_ ?_ hadded
          · intro k v hmem hcounts hignore
            obtain ⟨w, hw, -⟩ := hmembers k v hmem hcounts hignore
            exact ⟨w, hw⟩
          · intro k v w hmem hcounts hignore hw
            obtain ⟨u, hu, hnil⟩ := hmembers k v hmem hcounts hignore
            obtain rfl : u = w := Option.some.inj (hu.symm.trans hw)
            exact ih k v hmem hnil hcounts
      | _ =>
          refine absurd h (compare_ne_nil_of_typeName_ne hpath rfl (by simp) ?_)
          simp [Value.typeName]
  | matcher m =>
      rw [compare_matcher hpath] at h
      exact .accepted ((checkMatcher_eq_nil_iff path m actual).mp h)
  | _ => exact agrees_of_compare_scalar rfl hpath h

/-- **The comparison decides agreement.**  With the order of arrays kept, no
difference is found exactly when the actual tree agrees with the expected one. -/
theorem compare_eq_nil_iff_agrees {o : Options} (ho : o.KeepsOrder) (expected : Value)
    (path : String) (actual : Value) :
    compare o expected path actual = [] ↔ Agrees o path expected actual :=
  ⟨agrees_of_compare_eq_nil ho, compare_eq_nil_of_agrees ho⟩

/-- Two forms of one number, a matcher inside a list and a key that is not
compared. -/
theorem agrees_record :
    (Options.mk false [] ["stamp"]).KeepsOrder ∧
      Agrees ⟨false, [], ["stamp"]⟩ "$"
        (.object [("ids", .array [.int 1, .matcher .anyInt]), ("stamp", .int 4)])
        (.object [("ids", .array [.nat 1, .int 7])]) :=
  ⟨⟨rfl, rfl⟩, (compare_eq_nil_iff_agrees ⟨rfl, rfl⟩ _ _ _).mp (by decide +kernel)⟩

end Expectation.Json
