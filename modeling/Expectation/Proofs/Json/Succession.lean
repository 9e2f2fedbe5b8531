import Expectation.Json.Path
import Expectation.Proofs.Json.Carrying

/-!
# Updates one after another

An expected document is brought up to date again and again, each time with
another actual document.  This file says which matchers survive such a run and
what the tree looks like otherwise.

One update is described step by step down the tree: away from a matcher, what
stands one step down is what the actual tree has there, with the matchers of
what the expected tree has there carried over.  So a matcher stays exactly where
the actual tree has a value in its place, and since actual trees hold no
matchers, one that was lost does not come back, however the tree grows later.

## Main results

* `step?_carryMatchers`: an update, one step down.
* `at?_carryMatchers_eq_matcher_iff`: where matchers are after an update.
* `outline_carryMatchers`: what else is there after an update.
* `at?_updates_eq_matcher_iff`: where matchers are after a run of updates.
* `carryMatchers_carryMatchers`: a second update changes nothing.
* `matchers_and_outline_of_updates`: all of this about a run.
-/

namespace Expectation.Json

/-! ## Values at places -/

namespace Value

theorem at?_cons (v : Value) (s : Step) (q : Place) :
    v.at? (s :: q) = (v.step? s).bind fun w => w.at? q := by
  rw [at?]
  cases v.step? s <;> rfl

/-- A condition on all parts of a tree holds of all parts one step down. -/
theorem Everywhere.step? {p : Value → Prop} {v w : Value} {s : Step} (h : v.Everywhere p)
    (hw : v.step? s = some w) : w.Everywhere p := by
  cases v with
  | array items =>
      cases s with
      | key k => exact absurd hw (by simp [Value.step?])
      | index i => exact (everywhere_array.mp h).2 w (List.mem_of_getElem? hw)
  | object members =>
      cases s with
      | key k => exact (everywhere_object.mp h).2 k w (mem_of_lookup_eq_some hw)
      | index i => exact absurd hw (by simp [Value.step?])
  | _ => exact absurd hw (by simp [Value.step?])

/-- In a tree without matchers there is none at any place. -/
theorem MatcherFree.at?_ne {v : Value} (h : v.MatcherFree) (q : Place) (m : Matcher) :
    v.at? q ≠ some (.matcher m) := by
  induction q generalizing v with
  | nil =>
      intro hv
      obtain rfl : v = .matcher m := Option.some.inj hv
      exact absurd h.self (by simp [Value.matcher?])
  | cons s q ih =>
      rw [at?_cons]
      cases hw : v.step? s with
      | none => simp
      | some w => exact ih (h.step? hw)

/-- What a value is apart from the values inside it: an array has a length and
an object has keys. -/
inductive Outline where
  | leaf (v : Value)
  | array (length : Nat)
  | object (keys : List String)

/-- The value apart from the values inside it. -/
def outline : Value → Outline
  | .array items => .array items.length
  | .object members => .object (members.map Prod.fst)
  | v => .leaf v

/-- No matcher stands at a place, nor above it. -/
def ClearAt (v : Value) (q : Place) : Prop :=
  ∀ p : Place, p <+: q → ∀ m, v.at? p ≠ some (.matcher m)

theorem ClearAt.matcher?_eq_none {v : Value} {q : Place} (h : v.ClearAt q) :
    v.matcher? = none := by
  cases v with
  | matcher m => exact absurd rfl (h [] (List.nil_prefix) m)
  | _ => rfl

theorem ClearAt.step? {v w : Value} {s : Step} {q : Place} (h : v.ClearAt (s :: q))
    (hw : v.step? s = some w) : w.ClearAt q := by
  intro p hp m hm
  refine h (s :: p) (List.cons_prefix_cons.mpr ⟨rfl, hp⟩) m ?_
  rw [at?_cons, hw]
  exact hm

end Value

/-! ## One update -/

theorem carryAt_eq_elim (key : String) (members : List (String × Value)) (w : Value) :
    carryAt key members w = (lookup key members).elim w (carryMatchers · w) := by
  rw [carryAt_eq]
  cases lookup key members <;> rfl

theorem getElem?_carryItems (items others : List Value) (i : Nat) :
    (carryItems items others)[i]? =
      others[i]?.map fun w => items[i]?.elim w (carryMatchers · w) := by
  induction others generalizing items i with
  | nil => cases items <;> rfl
  | cons w ws ih =>
      cases items with
      | nil => simp [carryItems]
      | cons v vs =>
          cases i with
          | zero => rfl
          | succ i => simpa [carryItems] using ih vs i

/-- **An update, one step down.**  Where the expected tree is no matcher, the
update goes on with the actual value and what was expected in its place. -/
theorem step?_carryMatchers {expected : Value} (h : expected.matcher? = none)
    (actual : Value) (s : Step) :
    (carryMatchers expected actual).step? s =
      (actual.step? s).map fun w => (expected.step? s).elim w (carryMatchers · w) := by
  have hkeep : ∀ v : Value, expected.step? s = none →
      v.step? s = (v.step? s).map fun w => (expected.step? s).elim w (carryMatchers · w) := by
    intro v hs
    simp [hs]
  cases expected with
  | matcher m => exact absurd h (by simp [Value.matcher?])
  | array items =>
      cases actual with
      | array others =>
          cases s with
          | key k => rfl
          | index i => exact getElem?_carryItems items others i
      | object others =>
          cases s with
          | key k => exact hkeep _ rfl
          | index i => rfl
      | _ => rfl
  | object members =>
      cases actual with
      | object others =>
          cases s with
          | key k =>
              have helim : carryAt k members =
                  fun w => (lookup k members).elim w (carryMatchers · w) :=
                funext (carryAt_eq_elim k members)
              exact (lookup_mapValues (carryAt · members) k others).trans
                (congrArg (fun f => (lookup k others).map f) helim)
          | index i => rfl
      | array others =>
          cases s with
          | key k => rfl
          | index i => exact hkeep _ rfl
      | _ => rfl
  | _ => exact hkeep actual rfl

theorem carryMatchers_eq_matcher_iff {expected actual : Value} (hfree : actual.MatcherFree)
    (m : Matcher) : carryMatchers expected actual = .matcher m ↔ expected = .matcher m := by
  have hactual : actual ≠ .matcher m := by
    rintro rfl
    exact absurd hfree.self (by simp [Value.matcher?])
  cases expected with
  | array items => cases actual <;> simp_all [carryMatchers]
  | object members => cases actual <;> simp_all [carryMatchers]
  | _ => simp [carryMatchers, hactual]

/-- **Where matchers are after an update**: where they were and the actual tree
has a value. -/
theorem at?_carryMatchers_eq_matcher_iff {expected actual : Value}
    (hfree : actual.MatcherFree) (q : Place) (m : Matcher) :
    (carryMatchers expected actual).at? q = some (.matcher m) ↔
      expected.at? q = some (.matcher m) ∧ (actual.at? q).isSome = true := by
  induction q generalizing expected actual with
  | nil => simp [Value.at?, carryMatchers_eq_matcher_iff hfree]
  | cons s q ih =>
      simp only [Value.at?_cons]
      cases hexpected : expected.matcher? with
      | some m' =>
          -- nothing stands below a matcher, neither before nor after
          obtain rfl : expected = .matcher m' := by
            cases expected <;> simp_all [Value.matcher?]
          simp [carryMatchers, Value.step?]
      | none =>
          rw [step?_carryMatchers hexpected]
          cases hw : actual.step? s with
          | none => simp
          | some w =>
              have hwfree : w.MatcherFree := hfree.step? hw
              cases expected.step? s with
              | none => simp [hwfree.at?_ne q m]
              | some v => exact ih hwfree

theorem outline_carryMatchers_self {expected : Value} (h : expected.matcher? = none)
    (actual : Value) : (carryMatchers expected actual).outline = actual.outline := by
  have hlength : ∀ vs ws, (carryItems vs ws).length = ws.length := by
    intro vs ws
    induction ws generalizing vs with
    | nil => cases vs <;> rfl
    | cons w ws ih =>
        cases vs with
        | nil => rfl
        | cons v vs => exact congrArg (· + 1) (ih vs)
  cases expected with
  | matcher m => exact absurd h (by simp [Value.matcher?])
  | array items => cases actual <;> simp [carryMatchers, Value.outline, hlength]
  | object members =>
      cases actual <;> simp [carryMatchers, Value.outline, Function.comp_def]
  | _ => rfl

/-- **What else is there after an update**: away from matchers, what the actual
tree has. -/
theorem outline_carryMatchers {expected actual : Value} {q : Place}
    (hclear : (carryMatchers expected actual).ClearAt q) :
    ((carryMatchers expected actual).at? q).map Value.outline =
      (actual.at? q).map Value.outline := by
  have hroot : ∀ {v w : Value} {p : Place}, (carryMatchers v w).ClearAt p →
      v.matcher? = none := by
    intro v w p hp
    cases v with
    | matcher m => exact absurd hp.matcher?_eq_none (by simp [carryMatchers, Value.matcher?])
    | _ => rfl
  induction q generalizing expected actual with
  | nil => exact congrArg some (outline_carryMatchers_self (hroot hclear) actual)
  | cons s q ih =>
      have hstep := step?_carryMatchers (hroot hclear) actual s
      rw [Value.at?_cons, Value.at?_cons]
      cases hw : actual.step? s with
      | none => simp [hstep, hw]
      | some w =>
          cases hv : expected.step? s with
          | none => simp [hstep, hw, hv]
          | some v =>
              have hnew : (carryMatchers expected actual).step? s =
                  some (carryMatchers v w) := by
                simp [hstep, hw, hv]
              rw [hnew]
              exact ih (hclear.step? hnew)

/-! ## A second update with the same tree -/

/-- The matchers of a tree are carried over to itself. -/
theorem carryMatchers_self {v : Value} (h : v.Canonical) : carryMatchers v v = v := by
  induction v with
  | array items ih =>
      have hitems : ∀ vs : List Value, (∀ v ∈ vs, carryMatchers v v = v) →
          carryItems vs vs = vs := by
        intro vs hvs
        induction vs with
        | nil => rfl
        | cons v vs ihvs =>
            rw [carryItems, hvs v List.mem_cons_self,
              ihvs fun w hw => hvs w (List.mem_cons_of_mem v hw)]
      rw [carryMatchers, hitems items fun v hv => ih v hv (h.items v hv)]
  | object members ih =>
      rw [carryMatchers]
      refine congrArg Value.object ((List.map_congr_left ?_).trans (List.map_id members))
      rintro ⟨k, w⟩ hmem
      refine congrArg (k, ·) ?_
      rw [carryAt_eq_elim, lookup_eq_some_of_mem h.ascending hmem]
      exact ih k w hmem (h.members k w hmem)
  | _ => rfl

/-- **A second update changes nothing.** -/
theorem carryMatchers_carryMatchers (expected : Value) {actual : Value}
    (h : actual.Canonical) :
    carryMatchers (carryMatchers expected actual) actual = carryMatchers expected actual := by
  induction expected generalizing actual with
  | matcher m => rfl
  | array items ih =>
      cases actual with
      | array others =>
          have hitems : ∀ vs ws : List Value, (∀ v ∈ vs, ∀ w ∈ ws,
                carryMatchers (carryMatchers v w) w = carryMatchers v w) →
              (∀ w ∈ ws, carryMatchers w w = w) →
              carryItems (carryItems vs ws) ws = carryItems vs ws := by
            intro vs ws htwice hself
            apply List.ext_getElem?
            intro i
            simp only [getElem?_carryItems]
            cases hw : ws[i]? with
            | none => rfl
            | some w =>
                have hmem : w ∈ ws := List.mem_of_getElem? hw
                cases hv : vs[i]? with
                | none => simp [hself w hmem]
                | some v => simp [htwice v (List.mem_of_getElem? hv) w hmem]
          have hself : ∀ w ∈ others, carryMatchers w w = w :=
            fun w hw => carryMatchers_self (h.items w hw)
          rw [carryMatchers, carryMatchers,
            hitems items others (fun v hv w hw => ih v hv (h.items w hw)) hself]
      | _ => exact carryMatchers_self h
  | object members ih =>
      cases actual with
      | object others =>
          rw [carryMatchers, carryMatchers]
          refine congrArg Value.object (List.map_congr_left ?_)
          rintro ⟨k, w⟩ hmem
          have hw := lookup_eq_some_of_mem h.ascending hmem
          have hcanonical := h.members k w hmem
          have hnew := lookup_mapValues (carryAt · members) k others
          rw [hw] at hnew
          refine congrArg (k, ·) ?_
          rw [carryAt_eq_elim, hnew]
          show carryMatchers (carryAt k members w) w = carryAt k members w
          rw [carryAt_eq_elim]
          cases hv : lookup k members with
          | none => exact carryMatchers_self hcanonical
          | some v => exact ih k v (mem_of_lookup_eq_some hv) hcanonical
      | _ => exact carryMatchers_self h
  | _ => exact carryMatchers_self h

/-! ## Runs of updates -/

/-- The expected tree after an update with each of the actual trees in turn. -/
def updates (expected : Value) (actuals : List Value) : Value :=
  actuals.foldl carryMatchers expected

theorem updates_cons (expected actual : Value) (actuals : List Value) :
    updates expected (actual :: actuals) = updates (carryMatchers expected actual) actuals :=
  rfl

theorem updates_concat (expected : Value) (earlier : List Value) (last : Value) :
    updates expected (earlier ++ [last]) = carryMatchers (updates expected earlier) last :=
  List.foldl_concat ..

/-- **Where matchers are after a run of updates**: where they were and every
actual tree of the run has a value. -/
theorem at?_updates_eq_matcher_iff {expected : Value} {actuals : List Value}
    (hfree : ∀ a ∈ actuals, a.MatcherFree) (q : Place) (m : Matcher) :
    (updates expected actuals).at? q = some (.matcher m) ↔
      expected.at? q = some (.matcher m) ∧ ∀ a ∈ actuals, (a.at? q).isSome = true := by
  induction actuals generalizing expected with
  | nil => simp [updates]
  | cons a as ih =>
      have hstep : (carryMatchers expected a).at? q = some (.matcher m) ↔
          expected.at? q = some (.matcher m) ∧ (a.at? q).isSome = true :=
        at?_carryMatchers_eq_matcher_iff (hfree a List.mem_cons_self) q m
      rw [updates_cons, ih fun b hb => hfree b (List.mem_cons_of_mem a hb), hstep]
      simp only [List.mem_cons, forall_eq_or_imp, and_assoc]

/-- **Matchers survive exactly where they always had a counterpart.**  After a
run of updates there is a matcher exactly where there was one at first and every
actual tree had a value; wherever there is no matcher at a place or above it,
the tree looks like the last actual tree; and another update with the same tree
changes nothing. -/
theorem matchers_and_outline_of_updates (expected : Value) (earlier : List Value)
    (last : Value) (hfree : ∀ a ∈ earlier ++ [last], a.MatcherFree)
    (hcanonical : last.Canonical) :
    (∀ (q : Place) (m : Matcher),
      (updates expected (earlier ++ [last])).at? q = some (.matcher m) ↔
        expected.at? q = some (.matcher m) ∧
          ∀ a ∈ earlier ++ [last], (a.at? q).isSome = true) ∧
    (∀ q : Place, (updates expected (earlier ++ [last])).ClearAt q →
      ((updates expected (earlier ++ [last])).at? q).map Value.outline =
        (last.at? q).map Value.outline) ∧
    carryMatchers (carryMatchers expected last) last = carryMatchers expected last := by
  refine ⟨at?_updates_eq_matcher_iff hfree, ?_, carryMatchers_carryMatchers expected hcanonical⟩
  intro q hclear
  rw [updates_concat] at hclear ⊢
  exact outline_carryMatchers hclear

/-- An array loses its second item and gets it back, but not the matcher. -/
theorem matchers_and_outline_of_shrunk :
    (∀ a ∈ [Value.array [.int 1], .array [.int 5, .int 6]], a.MatcherFree) ∧
      (Value.array [.int 5, .int 6]).Canonical ∧
      (updates (.array [.matcher .anyInt, .matcher .anyInt])
        ([.array [.int 1]] ++ [.array [.int 5, .int 6]])).at? [.index 0] =
          some (.matcher .anyInt) ∧
      ((updates (.array [.matcher .anyInt, .matcher .anyInt])
        ([.array [.int 1]] ++ [.array [.int 5, .int 6]])).at? [.index 1]).map Value.outline =
          some (.leaf (.int 6)) := by
  have hfree : ∀ a ∈ [Value.array [.int 1], .array [.int 5, .int 6]], a.MatcherFree := by
    simp [Value.MatcherFree, Value.Everywhere, Value.parts, Value.itemParts, Value.matcher?]
  have hcanonical : (Value.array [.int 5, .int 6]).Canonical := ⟨trivial, trivial, trivial⟩
  obtain ⟨hmatchers, houtline, -⟩ := matchers_and_outline_of_updates
    (.array [.matcher .anyInt, .matcher .anyInt]) [.array [.int 1]]
    (.array [.int 5, .int 6]) hfree hcanonical
  refine ⟨hfree, hcanonical, (hmatchers _ _).mpr ⟨rfl, by decide⟩, ?_⟩
  refine (houtline [.index 1] ?_).trans rfl
  intro p hp m hm
  obtain ⟨hbefore, hthroughout⟩ := (hmatchers p m).mp hm
  cases p with
  | nil => exact absurd (Option.some.inj hbefore) (by simp)
  | cons s p =>
      obtain ⟨rfl, hrest⟩ := List.cons_prefix_cons.mp hp
      obtain rfl : p = [] := List.prefix_nil.mp hrest
      exact absurd (hthroughout (.array [.int 1]) List.mem_cons_self) (by decide)

end Expectation.Json
