import Expectation.Json.Update
import Expectation.Proofs.Json.Reported
import Expectation.Proofs.Json.SelfAgreement
import Mathlib.Data.List.Sort

/-!
# What an update leaves to report

Bringing an expected tree up to date takes the actual tree and puts the old
matchers back in their places.  Compared with the same actual tree again, the
new expected tree has nothing to report except where a matcher refuses the
value in its place, and there it reports what the old one did.

The update goes by the actual members and the comparison by the expected ones.
Both are lists by ascending key, and a report can only come from a key that
both have; so the two runs meet the same keys in the same order.

## Main results

* `flatMap_keys_eq`: two runs over ascending keys that only count at common
  keys are the same.
* `compareItems_carryItems`, `compareMembers_carryAt`: the two loops.
* `compare_carryMatchers`: an update removes every difference but the failures
  of matchers.
-/

namespace Expectation.Json

/-- The differences that are failures of matchers. -/
def matcherFailures (ds : List Difference) : List Difference :=
  ds.filter fun d => d.kind == .matcherFailed

@[simp] theorem matcherFailures_nil : matcherFailures [] = [] := rfl

@[simp] theorem matcherFailures_append (ds es : List Difference) :
    matcherFailures (ds ++ es) = matcherFailures ds ++ matcherFailures es :=
  List.filter_append ds es

@[simp] theorem matcherFailures_removed (path : String) (v : Value) (ds : List Difference) :
    matcherFailures (removed path v :: ds) = matcherFailures ds := rfl

@[simp] theorem matcherFailures_added (path : String) (v : Value) (ds : List Difference) :
    matcherFailures (added path v :: ds) = matcherFailures ds := rfl

@[simp] theorem matcherFailures_mismatched (path : String) (v w : Value)
    (ds : List Difference) :
    matcherFailures (mismatched path v w :: ds) = matcherFailures ds := rfl

/-- Whatever a matcher has to report is its failure. -/
theorem matcherFailures_checkMatcher (path : String) (m : Matcher) (actual : Value) :
    matcherFailures (checkMatcher path m actual) = checkMatcher path m actual := by
  unfold checkMatcher
  split <;> rfl

theorem matcherFailures_addedItems (path : String) (i : Nat) (others : List Value) :
    matcherFailures (addedItems path i others) = [] := by
  induction others generalizing i with
  | nil => rfl
  | cons w ws ih => exact ih (i + 1)

theorem matcherFailures_addedMembers (o : Options) (path : String)
    (members others : List (String × Value)) :
    matcherFailures (addedMembers o path members others) = [] := by
  rw [addedMembers_eq_flatMap, matcherFailures, List.filter_flatMap,
    List.flatMap_eq_nil_iff]
  intro member _
  unfold additionReport
  split <;> rfl

/-! ## Runs over ascending keys -/

/-- A run over keys may leave out the keys at which nothing happens. -/
theorem flatMap_filter_ne_nil {α β : Type} (f : α → List β) (ks : List α) :
    (ks.filter fun k => !(f k).isEmpty).flatMap f = ks.flatMap f := by
  induction ks with
  | nil => rfl
  | cons k ks ih =>
      cases hk : f k with
      | nil => simp [hk, ih]
      | cons b bs => simp [hk, ih]

/-- **Runs that only count at common keys are the same.**  When the keys of two
lists ascend and something happens only at keys that both have, it happens in
the same order on both. -/
theorem flatMap_keys_eq {α β γ : Type} {f : String → List γ} {ms : List (String × α)}
    {ns : List (String × β)} (hms : Ascending ms) (hns : Ascending ns)
    (hcommon : ∀ k, f k ≠ [] → (∃ v, (k, v) ∈ ms) ∧ ∃ w, (k, w) ∈ ns) :
    (ms.flatMap fun m => f m.1) = ns.flatMap fun n => f n.1 := by
  have hmem : ∀ {δ : Type} (ls : List (String × δ)) (k : String),
      k ∈ (ls.map Prod.fst).filter (fun k => !(f k).isEmpty) ↔
        (∃ v, (k, v) ∈ ls) ∧ f k ≠ [] := by
    intro δ ls k
    simp [List.mem_filter, List.mem_map]
  have hsorted : ∀ {δ : Type} {ls : List (String × δ)}, Ascending ls →
      ((ls.map Prod.fst).filter fun k => !(f k).isEmpty).Pairwise (· < ·) := by
    intro δ ls hls
    exact (List.pairwise_map.mpr hls).filter _
  have hkeys : (ms.map Prod.fst).filter (fun k => !(f k).isEmpty) =
      (ns.map Prod.fst).filter fun k => !(f k).isEmpty := by
    refine (hsorted hms).eq_of_mem_iff (hsorted hns) ?_
    intro k
    rw [hmem, hmem]
    constructor
    · rintro ⟨-, hk⟩
      exact ⟨(hcommon k hk).2, hk⟩
    · rintro ⟨-, hk⟩
      exact ⟨(hcommon k hk).1, hk⟩
  calc (ms.flatMap fun m => f m.1)
      = (ms.map Prod.fst).flatMap f := (List.flatMap_map _ _ _).symm
    _ = (ns.map Prod.fst).flatMap f := by
      rw [← flatMap_filter_ne_nil, hkeys, flatMap_filter_ne_nil]
    _ = ns.flatMap fun n => f n.1 := List.flatMap_map _ _ _

/-! ## Arrays -/

theorem carryItems_nil (others : List Value) : carryItems [] others = others := by
  cases others <;> rfl

theorem matcherFailures_compareItems_nil (o : Options) (path : String) (i : Nat)
    (items : List Value) : matcherFailures (compareItems o path i items []) = [] := by
  induction items generalizing i with
  | nil => rfl
  | cons v vs ih => exact ih (i + 1)

/-- Items that have nothing to report against themselves have nothing to report
as the items of one array either. -/
theorem compareItems_self (o : Options) (path : String) (i : Nat) (others : List Value)
    (hself : ∀ w ∈ others, ∀ p, compare o w p w = []) :
    compareItems o path i others others = [] := by
  refine (compareItems_eq_nil_iff o path i others others).mpr ⟨rfl, ?_⟩
  intro j v w hv hw
  obtain rfl : v = w := Option.some.inj (hv.symm.trans hw)
  exact hself v (List.mem_of_getElem? hv) _

/-- The items after an update report what the old items reported through
matchers, if single items do. -/
theorem compareItems_carryItems (o : Options) (path : String) (i : Nat)
    (items others : List Value)
    (hself : ∀ w ∈ others, ∀ p, compare o w p w = [])
    (hcarry : ∀ v ∈ items, ∀ w ∈ others, ∀ p,
      compare o (carryMatchers v w) p w = matcherFailures (compare o v p w)) :
    compareItems o path i (carryItems items others) others =
      matcherFailures (compareItems o path i items others) := by
  induction others generalizing items i with
  | nil =>
      rw [matcherFailures_compareItems_nil]
      cases items <;> rfl
  | cons w ws ih =>
      have hself' : ∀ z ∈ ws, ∀ p, compare o z p z = [] :=
        fun z hz => hself z (List.mem_cons_of_mem _ hz)
      cases items with
      | nil =>
          rw [carryItems_nil, compareItems_self o path i (w :: ws) hself]
          exact (matcherFailures_addedItems path i (w :: ws)).symm
      | cons v vs =>
          have htail := ih (i + 1) vs hself' fun u hu z hz =>
            hcarry u (List.mem_cons_of_mem _ hu) z (List.mem_cons_of_mem _ hz)
          rw [carryItems, compareItems, compareItems, matcherFailures_append, htail,
            hcarry v List.mem_cons_self w List.mem_cons_self]

/-! ## Objects -/

/-- What is carried to a key is decided by the expected member at that key. -/
theorem carryAt_eq (key : String) (members : List (String × Value)) (w : Value) :
    carryAt key members w =
      match lookup key members with
      | some v => carryMatchers v w
      | none => w := by
  induction members with
  | nil => rfl
  | cons member ms ih =>
      obtain ⟨k, v⟩ := member
      by_cases hk : k = key
      · simp [carryAt, lookup, hk]
      · simp [carryAt, lookup, hk, ih]

/-- At a key that both objects have, a member reports what its value does. -/
theorem memberReport_of_lookup {o : Options} {path : String}
    {others : List (String × Value)} {k : String} {w : Value}
    (hw : lookup k others = some w) (v : Value) :
    memberReport o path others k v = compare o v (keyPath path k) w := by
  unfold memberReport
  split
  · next hskip =>
    rcases Bool.or_eq_true _ _ ▸ hskip with hpath | hignore
    · rw [compare_of_ignores hpath]
    · rw [v.any_isIgnore_eq_true_iff.mp hignore, compare_ignore]
  · rw [hw]

/-- The failures of matchers that a key can be the reason for. -/
def sharedFailures (o : Options) (path : String) (members others : List (String × Value))
    (k : String) : List Difference :=
  match lookup k members, lookup k others with
  | some v, some w => matcherFailures (compare o v (keyPath path k) w)
  | _, _ => []

/-- The members after an update report what the old members reported through
matchers, if single members do. -/
theorem compareMembers_carryAt (o : Options) (path : String)
    (members others : List (String × Value))
    (hmembers : Ascending members) (hothers : Ascending others)
    (hself : ∀ k w, (k, w) ∈ others → ∀ p, compare o w p w = [])
    (hcarry : ∀ k v w, (k, v) ∈ members → (k, w) ∈ others → ∀ p,
      compare o (carryMatchers v w) p w = matcherFailures (compare o v p w)) :
    compareMembers o path others (others.map fun (k, w) => (k, carryAt k members w)) =
      matcherFailures (compareMembers o path others members) := by
  have hnew : ∀ m ∈ others, memberReport o path others m.1 (carryAt m.1 members m.2) =
      sharedFailures o path members others m.1 := by
    rintro ⟨k, w⟩ hmem
    have hw := lookup_eq_some_of_mem hothers hmem
    rw [memberReport_of_lookup hw, carryAt_eq, sharedFailures, hw]
    cases hv : lookup k members with
    | none => exact hself k w hmem _
    | some v => exact hcarry k v w (mem_of_lookup_eq_some hv) hmem _
  have hold : ∀ m ∈ members, matcherFailures (memberReport o path others m.1 m.2) =
      sharedFailures o path members others m.1 := by
    rintro ⟨k, v⟩ hmem
    have hv := lookup_eq_some_of_mem hmembers hmem
    rw [sharedFailures, hv]
    cases hw : lookup k others with
    | none =>
        rw [memberReport, hw]
        split <;> rfl
    | some w => rw [memberReport_of_lookup hw]
  have hcommon : ∀ k, sharedFailures o path members others k ≠ [] →
      (∃ w, (k, w) ∈ others) ∧ ∃ v, (k, v) ∈ members := by
    intro k hk
    unfold sharedFailures at hk
    split at hk
    · next v w hv hw => exact ⟨⟨w, mem_of_lookup_eq_some hw⟩, v, mem_of_lookup_eq_some hv⟩
    · exact absurd rfl hk
  rw [compareMembers_eq_flatMap, compareMembers_eq_flatMap, List.flatMap_map,
    matcherFailures, List.filter_flatMap]
  calc (others.flatMap fun m => memberReport o path others m.1 (carryAt m.1 members m.2))
      = others.flatMap fun m => sharedFailures o path members others m.1 :=
        List.flatMap_congr hnew
    _ = members.flatMap fun m => sharedFailures o path members others m.1 :=
        flatMap_keys_eq hothers hmembers hcommon
    _ = members.flatMap fun m => matcherFailures (memberReport o path others m.1 m.2) :=
        (List.flatMap_congr hold).symm

/-! ## The whole tree -/

/-- An expected scalar is never the reason for the failure of a matcher. -/
theorem matcherFailures_compare_scalar (o : Options) (path : String) {v : Value}
    (hv : v.isScalar = true) (actual : Value) :
    matcherFailures (compare o v path actual) = [] := by
  refine List.filter_eq_nil_iff.mpr fun d hd => ?_
  cases reported_of_mem_compare_scalar hv hd with
  | added | removed | mismatched | changed => exact Bool.false_ne_true
  | _ => exact absurd hv Bool.false_ne_true

theorem carryMatchers_scalar {v : Value} (hv : v.isScalar = true) (actual : Value) :
    carryMatchers v actual = actual := by
  cases v <;> simp_all [carryMatchers, Value.isScalar]

/-- At a path that is left out there is nothing to show about failures. -/
theorem compare_eq_failures_of_counts {o : Options} {path : String}
    {updated expected actual : Value}
    (h : o.ignores path = false →
      compare o updated path actual = matcherFailures (compare o expected path actual)) :
    compare o updated path actual = matcherFailures (compare o expected path actual) := by
  cases hpath : o.ignores path with
  | true => rw [compare_of_ignores hpath, compare_of_ignores hpath, matcherFailures_nil]
  | false => exact h hpath

/-- Every actual member is expected after an update. -/
theorem addedMembers_carryAt (o : Options) (path : String)
    (members others : List (String × Value)) :
    addedMembers o path (others.map fun (k, w) => (k, carryAt k members w)) others = [] := by
  rw [addedMembers_eq_nil_iff]
  intro k w hmem _
  exact ⟨carryAt k members w, List.mem_map.mpr ⟨(k, w), hmem, rfl⟩⟩

/-- **An update removes every difference but the failures of matchers.**
Compared with the actual tree once more, the expected tree brought up to date
reports exactly the failures of matchers that the old one reported, in the same
order and with the same sides. -/
theorem compare_carryMatchers {o : Options} (ho : o.KeepsOrder) {expected actual : Value}
    (hexpected : expected.Canonical) (hactual : actual.Canonical)
    (hfree : actual.MatcherFree) (hnan : actual.NaNFree) (path : String) :
    compare o (carryMatchers expected actual) path actual =
      (compare o expected path actual).filter fun d => d.kind == .matcherFailed := by
  show _ = matcherFailures _
  have hscalar : ∀ {v w : Value}, v.isScalar = true → w.Canonical → w.MatcherFree →
      w.NaNFree → ∀ p, compare o (carryMatchers v w) p w =
        matcherFailures (compare o v p w) := by
    intro v w hv hw hwfree hwnan p
    rw [carryMatchers_scalar hv, matcherFailures_compare_scalar o p hv]
    exact compare_self ho hw hwfree hwnan p
  induction expected generalizing actual path with
  | null => exact hscalar rfl hactual hfree hnan path
  | bool b => exact hscalar rfl hactual hfree hnan path
  | int i => exact hscalar rfl hactual hfree hnan path
  | nat n => exact hscalar rfl hactual hfree hnan path
  | float x => exact hscalar rfl hactual hfree hnan path
  | string s => exact hscalar rfl hactual hfree hnan path
  | matcher m =>
      refine compare_eq_failures_of_counts fun hpath => ?_
      have hcompare : compare o (.matcher m) path actual = checkMatcher path m actual := by
        simp [compare, hpath]
      rw [carryMatchers, hcompare, matcherFailures_checkMatcher]
  | array items ih =>
      refine compare_eq_failures_of_counts fun hpath => ?_
      cases actual with
      | array others =>
          have hitems := compareItems_carryItems o path 0 items others
            (fun w hw p => compare_self ho (hactual.items w hw) (hfree.items w hw)
              (hnan.items w hw) p)
            (fun v hv w hw p => ih v hv (hexpected.items v hv) (hactual.items w hw)
              (hfree.items w hw) (hnan.items w hw) p)
          simpa [carryMatchers, compare, hpath, ho.unordered] using hitems
      | _ =>
          simp only [carryMatchers, compare_self ho hactual hfree hnan path]
          simp [compare, hpath]
  | object members ih =>
      refine compare_eq_failures_of_counts fun hpath => ?_
      cases actual with
      | object others =>
          have hmembers := compareMembers_carryAt o path members others
            hexpected.ascending hactual.ascending
            (fun k w hw p => compare_self ho (hactual.members k w hw)
              (hfree.members k w hw) (hnan.members k w hw) p)
            (fun k v w hv hw p => ih k v hv (hexpected.members k v hv)
              (hactual.members k w hw) (hfree.members k w hw) (hnan.members k w hw) p)
          simp [carryMatchers, compare, hpath, addedMembers_carryAt, hmembers,
            matcherFailures_addedMembers]
      | _ =>
          simp only [carryMatchers, compare_self ho hactual hfree hnan path]
          simp [compare, hpath]

/-- A matcher that fails keeps its failure; the other differences go. -/
theorem compare_carryMatchers_record :
    (Options.mk false [] []).KeepsOrder ∧
      (Value.object [("a", .matcher .anyString), ("b", .null)]).Canonical ∧
      (Value.object [("a", .int 7), ("c", .bool true)]).Canonical ∧
      (Value.object [("a", .int 7), ("c", .bool true)]).MatcherFree ∧
      (Value.object [("a", .int 7), ("c", .bool true)]).NaNFree ∧
      compare {} (carryMatchers (.object [("a", .matcher .anyString), ("b", .null)])
          (.object [("a", .int 7), ("c", .bool true)])) "$"
          (.object [("a", .int 7), ("c", .bool true)]) =
        (compare {} (.object [("a", .matcher .anyString), ("b", .null)]) "$"
          (.object [("a", .int 7), ("c", .bool true)])).filter
            fun d => d.kind == .matcherFailed := by
  have ho : (Options.mk false [] []).KeepsOrder := ⟨rfl, rfl⟩
  have hexpected : (Value.object [("a", .matcher .anyString), ("b", .null)]).Canonical :=
    ⟨by decide +kernel, trivial, trivial, trivial⟩
  have hactual : (Value.object [("a", .int 7), ("c", .bool true)]).Canonical :=
    ⟨by decide +kernel, trivial, trivial, trivial⟩
  have hfree : (Value.object [("a", .int 7), ("c", .bool true)]).MatcherFree := by
    simp [Value.MatcherFree, Value.Everywhere, Value.parts, Value.memberParts, Value.matcher?]
  have hnan : (Value.object [("a", .int 7), ("c", .bool true)]).NaNFree := by
    simp [Value.NaNFree, Value.Everywhere, Value.parts, Value.memberParts]
  exact ⟨ho, hexpected, hactual, hfree, hnan,
    compare_carryMatchers ho hexpected hactual hfree hnan "$"⟩

end Expectation.Json
