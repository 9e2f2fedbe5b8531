import Expectation.Proofs.Binary64
import Expectation.Proofs.Json.Agreement

/-!
# A tree agrees with itself

A tree without matchers agrees with itself at every path, and nothing is
reported between the two.  Two things could stand in the way: a NaN, which is
equal to no number, and an object with two members at one key, of which only
the first is found.  Integers are compared by the binary64 numbers nearest to
them, and rounding never gives a NaN.

## Main results

* `agrees_self`, `compare_self`: a tree agrees with itself.
-/

namespace Expectation.Json

/-- A number that is not a NaN has the same value as itself. -/
theorem Value.numEq_self {v : Value} {x : Binary64} (hx : v.number? = some x)
    (hnan : v.NaNFree) : x.numEq x = true := by
  refine Binary64.numEq_refl ?_
  cases v with
  | int i =>
      obtain rfl : Binary64.ofInt i.toInt = x := by simpa [Value.number?] using hx
      exact Binary64.isNaN_ofQuotient _ _ _
  | nat n =>
      obtain rfl : Binary64.ofNat n.toNat = x := by simpa [Value.number?] using hx
      exact Binary64.isNaN_ofQuotient _ _ _
  | float y =>
      obtain rfl : y = x := by simpa [Value.number?] using hx
      exact hnan.self y rfl
  | _ => simp [Value.number?] at hx

theorem agrees_self_of_number {o : Options} {v : Value} {x : Binary64}
    (hx : v.number? = some x) (hnan : v.NaNFree) (path : String) : Agrees o path v v :=
  .number hx hx (Value.numEq_self hx hnan)

/-- A tree without matchers and NaNs agrees with itself. -/
theorem agrees_self {o : Options} {v : Value} (hcanonical : v.Canonical)
    (hfree : v.MatcherFree) (hnan : v.NaNFree) (path : String) : Agrees o path v v := by
  induction v generalizing path with
  | null => exact .null
  | bool b => exact .bool
  | int i => exact agrees_self_of_number rfl hnan path
  | nat n => exact agrees_self_of_number rfl hnan path
  | float x => exact agrees_self_of_number rfl hnan path
  | string s => exact .string
  | array items ih =>
      refine .array rfl ?_
      intro i v w hv hw
      obtain rfl : v = w := Option.some.inj (hv.symm.trans hw)
      have hmem : v ∈ items := List.mem_of_getElem? hv
      exact ih v hmem (hcanonical.items v hmem) (hfree.items v hmem) (hnan.items v hmem) _
  | object members ih =>
      have hfound : ∀ k v, (k, v) ∈ members → lookup k members = some v :=
        fun _ _ hmem => lookup_eq_some_of_mem hcanonical.ascending hmem
      refine .object ?_ ?_ fun k w hmem _ => ⟨w, hmem⟩
      · intro k v hmem _ _
        exact ⟨v, hfound k v hmem⟩
      · intro k v w hmem _ _ hw
        obtain rfl : v = w := Option.some.inj ((hfound k v hmem).symm.trans hw)
        exact ih k v hmem (hcanonical.members k v hmem) (hfree.members k v hmem)
          (hnan.members k v hmem) _
  | matcher m => exact absurd hfree.self (Option.some_ne_none m)

/-- Nothing is reported between a tree and itself. -/
theorem compare_self {o : Options} (ho : o.KeepsOrder) {v : Value}
    (hcanonical : v.Canonical) (hfree : v.MatcherFree) (hnan : v.NaNFree) (path : String) :
    compare o v path v = [] :=
  compare_eq_nil_of_agrees ho (agrees_self hcanonical hfree hnan path)

end Expectation.Json
