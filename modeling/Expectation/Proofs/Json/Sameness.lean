import Expectation.Proofs.Json.Likeness

/-!
# Trees that are the same agree

Sameness tells trees apart exactly, the comparison goes by the numeric value and may
leave out paths or the order of arrays.  Trees that are the same have the same keys and
the same number of items everywhere, and their numbers have the same values.  So nothing
is reported between them, whatever the options, if the expected one is literal.

## Main results

* `sameItems_iff`, `sameMembers_iff`: lists are the same part by part.
* `agrees_of_same`: trees that are the same agree.
* `compare_of_same`: nothing is reported between them.
-/

namespace Expectation.Json

namespace Value

/-! ## Parts that are the same -/

theorem sameItems_iff {vs ws : List Value} :
    sameItems vs ws = true ↔ List.Forall₂ (fun v w => v.same w = true) vs ws := by
  induction vs generalizing ws with
  | nil => cases ws <;> simp [sameItems]
  | cons v vs ih => cases ws <;> simp [sameItems, ih]

theorem sameMembers_iff {vs ws : List (String × Value)} :
    sameMembers vs ws = true ↔
      List.Forall₂ (fun a b => a.1 = b.1 ∧ a.2.same b.2 = true) vs ws := by
  induction vs generalizing ws with
  | nil => cases ws <;> simp [sameMembers]
  | cons v vs ih =>
      obtain ⟨k, v⟩ := v
      cases ws with
      | nil => simp [sameMembers]
      | cons w ws => simp [sameMembers, ih]

/-- Integers in either form have the value of the integer. -/
theorem ofInt_natCast (n : Nat) : Binary64.ofInt n = Binary64.ofNat n := by
  have hsign : ¬ (n : Int) < 0 := by omega
  simp [Binary64.ofInt, Binary64.ofNat, hsign]

/-- Numbers that are the same have the same value. -/
theorem number?_of_same {v w : Value} {x : Binary64} (hx : v.number? = some x)
    (h : v.same w = true) : w.number? = some x := by
  cases v <;> cases w <;> simp_all [same, number?, ofInt_natCast]

end Value

/-! ## Agreement -/

/-- Both lists have the same keys. -/
theorem keys_eq_of_same {members others : List (String × Value)}
    (h : List.Forall₂ (fun a b => a.1 = b.1 ∧ a.2.same b.2 = true) members others) :
    members.map Prod.fst = others.map Prod.fst := by
  induction h with
  | nil => rfl
  | cons hab _ ih => rw [List.map_cons, List.map_cons, hab.1, ih]

/-- What is at a key of the one list is the same as what is there in the other. -/
theorem lookup_of_same {members others : List (String × Value)} (hmembers : Ascending members)
    (h : List.Forall₂ (fun a b => a.1 = b.1 ∧ a.2.same b.2 = true) members others) {k : String}
    {v : Value} (hmem : (k, v) ∈ members) :
    ∃ w, lookup k others = some w ∧ v.same w = true := by
  have hothers : Ascending others := by
    rw [ascending_iff_map_fst, ← keys_eq_of_same h]
    exact ascending_iff_map_fst.mp hmembers
  obtain ⟨⟨_, w⟩, hw, rfl, hsame⟩ := exists_right_of_forall₂ h hmem
  exact ⟨w, lookup_eq_some_of_mem hothers hw, hsame⟩

/-- **Trees that are the same agree**, if the expected one is literal. -/
theorem agrees_of_same {o : Options} {v w : Value} (hv : v.Literal) (h : v.same w = true)
    (path : String) : Agrees o path v w := by
  have hnumber : ∀ {v w : Value} {x : Binary64} {path : String}, v.number? = some x →
      v.Literal → v.same w = true → Agrees o path v w :=
    fun hx hv h => .number hx (Value.number?_of_same hx h) (Value.numEq_self hx hv.nanFree)
  induction v generalizing w path with
  | int i => exact hnumber rfl hv h
  | nat n => exact hnumber rfl hv h
  | float x => exact hnumber rfl hv h
  | null =>
      cases w with
      | null => exact .null
      | _ => contradiction
  | bool b =>
      cases w with
      | bool c =>
          obtain rfl := eq_of_beq h
          exact .bool
      | _ => contradiction
  | string s =>
      cases w with
      | string t =>
          obtain rfl := eq_of_beq h
          exact .string
      | _ => contradiction
  | matcher m => exact absurd hv.matcherFree.self (Option.some_ne_none m)
  | array items ih =>
      cases w with
      | array others =>
          obtain ⟨hlength, hitems⟩ := forall₂_iff_getElem?.mp (Value.sameItems_iff.mp h)
          refine .array hlength fun i v w hv' hw => ?_
          have hmem := List.mem_of_getElem? hv'
          exact ih v hmem (hv.items v hmem) (hitems i v w hv' hw) _
      | _ => contradiction
  | object members ih =>
      cases w with
      | object others =>
          have hmembers := Value.sameMembers_iff.mp h
          have hfound : ∀ k v, (k, v) ∈ members →
              ∃ w, lookup k others = some w ∧ v.same w = true :=
            fun k v hmem => lookup_of_same hv.canonical.ascending hmembers hmem
          refine .object (fun k v hmem _ _ => ?_) (fun k v w hmem _ _ hw => ?_)
            fun k w hmem _ => ?_
          · obtain ⟨w, hw, -⟩ := hfound k v hmem
            exact ⟨w, hw⟩
          · obtain ⟨u, hu, hsame⟩ := hfound k v hmem
            obtain rfl := Option.some.inj (hu.symm.trans hw)
            exact ih k v hmem (hv.members k v hmem) hsame _
          · have hkey : k ∈ members.map Prod.fst :=
              keys_eq_of_same hmembers ▸ List.mem_map_of_mem hmem
            obtain ⟨⟨l, v⟩, hv, rfl⟩ := List.mem_map.mp hkey
            exact ⟨v, hv⟩
      | _ => contradiction

/-- **Nothing is reported between trees that are the same**, whatever the options, if the
expected one is literal. -/
theorem compare_of_same (o : Options) {v w : Value} (hv : v.Literal) (h : v.same w = true)
    (path : String) : compare o v path w = [] := by
  have hkeeps : (o.relax false []).KeepsOrder := ⟨rfl, rfl⟩
  exact compare_relax hkeeps o.ignoreArrayOrder o.ignoreArrayOrderPaths
    (compare_eq_nil_of_agrees hkeeps (agrees_of_same hv h path))

end Expectation.Json
