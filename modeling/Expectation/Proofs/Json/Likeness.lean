import Expectation.Proofs.AnyOrder
import Expectation.Proofs.Json.Places
import Expectation.Proofs.Json.SelfAgreement

/-!
# Literal trees that are alike

Pairing items first fit finds a match in some order only where it cannot matter
which of two possible partners an item takes.  Among literal trees it cannot:
`Alike` says when two of them match, arrays whose order does not count up to a
permutation, and this is an equivalence at every path, the more so as the items
of an array are interchangeable under options that name none of them.  So the
comparison decides likeness, first fit included, and is an equivalence itself.

The relation speaks of items as if they all were the first of their array.  That
keeps it free of indices, which change when arrays are put in order; the
comparison, which does count, is brought to it by interchangeable places.

## Main results

* `Alike.symm`, `Alike.trans`: likeness at a path is symmetric and transitive.
* `compare_eq_nil_iff_alike`: the comparison of literal trees decides likeness.
* `compare_literal_equivalence`: comparing literal trees is an equivalence that compares
  arrays up to order.
-/

namespace Expectation.Json

/-! ## Lists in an order that counts as the same -/

/-- Two lists are the items of an array in orders that count as the same. -/
structure Options.Reorders (o : Options) (path : String) (xs ys : List Value) : Prop where
  perm : xs.Perm ys
  kept : o.unordered path = false → xs = ys

namespace Options.Reorders

variable {o : Options} {path : String} {xs ys zs : List Value}

theorem symm (h : o.Reorders path xs ys) : o.Reorders path ys xs :=
  ⟨h.perm.symm, fun ho => (h.kept ho).symm⟩

theorem trans (hxy : o.Reorders path xs ys) (hyz : o.Reorders path ys zs) :
    o.Reorders path xs zs :=
  ⟨hxy.perm.trans hyz.perm, fun ho => (hxy.kept ho).trans (hyz.kept ho)⟩

/-- What matches a list in one order matches it in the other, if it is put in
another order as well. -/
theorem forall₂ {R : Value → Value → Prop} (h : o.Reorders path xs ys)
    (hmatch : List.Forall₂ R ys zs) : ∃ ws, List.Forall₂ R xs ws ∧ o.Reorders path ws zs := by
  cases ho : o.unordered path with
  | true =>
      obtain ⟨ws, hws, hperm⟩ := List.perm_comp_forall₂ h.perm hmatch
      exact ⟨ws, hws, hperm, fun hkept => absurd (ho.symm.trans hkept) (by decide)⟩
  | false =>
      obtain rfl := h.kept ho
      exact ⟨zs, hmatch, List.Perm.refl _, fun _ => rfl⟩

end Options.Reorders

/-! ## Likeness -/

/-- Two literal trees are alike at a path. -/
inductive Alike (o : Options) : String → Value → Value → Prop where
  /-- All trees are alike at a path that is left out. -/
  | ignored {path : String} {x y : Value} (h : o.ignores path = true) : Alike o path x y
  | null {path : String} : Alike o path .null .null
  | bool {path : String} {b : Bool} : Alike o path (.bool b) (.bool b)
  | string {path s : String} : Alike o path (.string s) (.string s)
  /-- Numbers are alike by value, whatever form they have. -/
  | number {path : String} {x y : Value} {a b : Binary64} (hx : x.number? = some a)
      (hy : y.number? = some b) (h : a.numEq b = true) : Alike o path x y
  /-- Arrays are alike item by item, once the second is put in order. -/
  | array {path : String} {xs ys zs : List Value} (horder : o.Reorders path zs ys)
      (hlength : xs.length = zs.length)
      (h : ∀ (i : Nat) x z, xs[i]? = some x → zs[i]? = some z →
        Alike o (indexPath path 0) x z) :
      Alike o path (.array xs) (.array ys)
  /-- Objects are alike key by key, but for keys that are left out. -/
  | object {path : String} {members others : List (String × Value)}
      (hkeys : ∀ k, o.ignores (keyPath path k) = false →
        (lookup k members).isSome = (lookup k others).isSome)
      (h : ∀ k v w, o.ignores (keyPath path k) = false → lookup k members = some v →
        lookup k others = some w → Alike o (keyPath path k) v w) :
      Alike o path (.object members) (.object others)

namespace Alike

variable {o : Options} {path : String} {x y z : Value}

theorem of_forall₂ {xs ys zs : List Value} (horder : o.Reorders path zs ys)
    (h : List.Forall₂ (Alike o (indexPath path 0)) xs zs) :
    Alike o path (.array xs) (.array ys) :=
  let ⟨hlength, hitems⟩ := forall₂_iff_getElem?.mp h
  .array horder hlength hitems

/-- **Likeness is symmetric.** -/
theorem symm (h : Alike o path x y) : Alike o path y x := by
  induction h with
  | ignored h => exact .ignored h
  | null => exact .null
  | bool => exact .bool
  | string => exact .string
  | number hx hy h => exact .number hy hx (by rwa [Binary64.numEq_comm])
  | @array path xs ys zs horder hlength _ ih =>
      have hback : List.Forall₂ (Alike o (indexPath path 0)) zs xs :=
        forall₂_iff_getElem?.mpr ⟨hlength.symm, fun i z x hz hx => ih i x z hx hz⟩
      -- undoing the order of the second array puts the first one in order
      obtain ⟨ws, hws, horder'⟩ := horder.symm.forall₂ hback
      exact .of_forall₂ horder' hws
  | object hkeys _ ih =>
      exact .object (fun k hk => (hkeys k hk).symm) fun k v w hk hv hw => ih k w v hk hw hv

/-- **Likeness is transitive.** -/
theorem trans (hxy : Alike o path x y) (hyz : Alike o path y z) : Alike o path x z := by
  induction hxy generalizing z with
  | ignored h => exact .ignored h
  | null => exact hyz
  | bool => exact hyz
  | string => exact hyz
  | number hx hy h =>
      cases hyz with
      | ignored h' => exact .ignored h'
      | number hy' hz h' =>
          obtain rfl := Option.some.inj (hy.symm.trans hy')
          exact .number hx hz (Binary64.numEq_trans h h')
      | _ => simp [Value.number?] at hy
  | @array path xs ys zs horder hlength _ ih =>
      cases hyz with
      | ignored h' => exact .ignored h'
      | number hy => simp [Value.number?] at hy
      | @array _ _ us vs horder' hlength' h' =>
          -- the third array follows the order that the second had to take
          obtain ⟨ws, hws, horder''⟩ :=
            horder.forall₂ (forall₂_iff_getElem?.mpr ⟨hlength', h'⟩)
          obtain ⟨hlength'', hitems⟩ := forall₂_iff_getElem?.mp hws
          refine .array (horder''.trans horder') (hlength.trans hlength'') ?_
          intro i x w hx hw
          have hi : i < zs.length := by
            rw [hlength'']
            exact (List.getElem?_eq_some_iff.mp hw).1
          have hz : zs[i]? = some zs[i] := List.getElem?_eq_getElem hi
          exact ih i x zs[i] hx hz (hitems i zs[i] w hz hw)
  | @object path members others hkeys _ ih =>
      cases hyz with
      | ignored h' => exact .ignored h'
      | number hy => simp [Value.number?] at hy
      | object hkeys' h' =>
          refine .object (fun k hk => (hkeys k hk).trans (hkeys' k hk)) ?_
          intro k v u hk hv hu
          have hsome : (lookup k others).isSome = true := by
            rw [← hkeys k hk, hv]
            rfl
          obtain ⟨w, hw⟩ := Option.isSome_iff_exists.mp hsome
          exact ih k v w hk hv hw (h' k w u hk hw hu)

/-- Arrays at a path that counts are alike up to the order of the second one. -/
theorem arrays_iff {xs ys : List Value} (hpath : o.ignores path = false) :
    Alike o path (.array xs) (.array ys) ↔
      ∃ zs, o.Reorders path zs ys ∧ List.Forall₂ (Alike o (indexPath path 0)) xs zs := by
  constructor
  · intro h
    cases h with
    | ignored h => exact absurd (hpath.symm.trans h) (by decide)
    | number hx => simp [Value.number?] at hx
    | @array _ _ _ zs horder hlength h =>
        exact ⟨zs, horder, forall₂_iff_getElem?.mpr ⟨hlength, h⟩⟩
  · rintro ⟨zs, horder, h⟩
    exact .of_forall₂ horder h

end Alike

/-! ## The comparison decides likeness -/

section Comparison

variable {o : Options} {p q : String}

/-- At a path that is left out everything matches and everything is alike. -/
theorem compare_eq_nil_iff_alike_of_counts (hpq : o.Interchangeable p q) {x y : Value}
    (h : o.ignores p = false → (compare o x p y = [] ↔ Alike o q x y)) :
    compare o x p y = [] ↔ Alike o q x y := by
  cases hp : o.ignores p with
  | true => exact iff_of_true (compare_of_ignores hp x y) (.ignored (hpq.ignores_eq ▸ hp))
  | false => exact h hp

/-- Scalars are compared by likeness. -/
theorem compare_scalar_eq_nil_iff_alike (hpq : o.Interchangeable p q) {x : Value}
    (hx : x.isScalar = true) (y : Value) : compare o x p y = [] ↔ Alike o q x y := by
  -- order says nothing about scalars, so agreement in order settles the matter
  have hordered : compare (o.relax false []) x p y = compare o x p y := by
    refine compare_relax_of_flat o false [] ?_ ?_
    · rintro items others rfl
      exact absurd hx Bool.false_ne_true
    · rintro members others rfl
      exact absurd hx Bool.false_ne_true
  have hkeeps : (o.relax false []).KeepsOrder := ⟨rfl, rfl⟩
  rw [← hordered]
  constructor
  · intro h
    cases agrees_of_compare_eq_nil hkeeps h with
    | ignored h => exact .ignored (hpq.ignores_eq ▸ h)
    | null => exact .null
    | bool => exact .bool
    | string => exact .string
    | number hx hy h => exact .number hx hy h
    | accepted | array | object => exact absurd hx Bool.false_ne_true
  · intro h
    refine compare_eq_nil_of_agrees hkeeps ?_
    cases h with
    | ignored h => exact .ignored (hpq.ignores_eq.trans h)
    | null => exact .null
    | bool => exact .bool
    | string => exact .string
    | number hx hy h => exact .number hx hy h
    | array | object => exact absurd hx Bool.false_ne_true

section Arrays

variable {xs ys : List Value} (hitems : ∀ x ∈ xs, ∀ y ∈ ys, ∀ i,
  compare o x (indexPath p i) y = [] ↔ Alike o (indexPath q 0) x y)

include hitems

/-- Items that are compared by likeness match in the order given if they are
alike. -/
theorem compareItems_eq_nil_iff_alike :
    compareItems o p 0 xs ys = [] ↔ List.Forall₂ (Alike o (indexPath q 0)) xs ys := by
  have hpair : ∀ (i : Nat) x y, xs[i]? = some x → ys[i]? = some y →
      (compare o x (indexPath p (0 + i)) y = [] ↔ Alike o (indexPath q 0) x y) :=
    fun i x y hx hy => hitems x (List.mem_of_getElem? hx) y (List.mem_of_getElem? hy) _
  rw [compareItems_eq_nil_iff, forall₂_iff_getElem?]
  refine and_congr Iff.rfl ⟨?_, ?_⟩
  · exact fun h i x y hx hy => (hpair i x y hx hy).mp (h i x y hx hy)
  · exact fun h i x y hx hy => (hpair i x y hx hy).mpr (h i x y hx hy)

/-- **First fit finds likeness.**  Items that are compared by likeness are all
paired exactly if they are alike in some order. -/
theorem compareUnordered_eq_nil_iff_alike :
    compareUnordered p (itemTrials o p 0 xs) xs ys = [] ↔
      ∃ zs, zs.Perm ys ∧ List.Forall₂ (Alike o (indexPath q 0)) xs zs := by
  have hreordered : ∀ zs, zs.Perm ys → (compareItems o p 0 xs zs = [] ↔
      List.Forall₂ (Alike o (indexPath q 0)) xs zs) := fun zs hperm =>
    compareItems_eq_nil_iff_alike fun x hx z hz i => hitems x hx z (hperm.subset hz) i
  constructor
  · intro h
    obtain ⟨zs, hperm, hnil⟩ := exists_perm_of_compareUnordered h
    exact ⟨zs, hperm, (hreordered zs hperm).mp hnil⟩
  · rintro ⟨zs, hperm, hmatch⟩
    -- likeness is an equivalence, so it cannot matter who takes which partner
    have hzigzag : Pairing.Zigzag (fun trial v => (trial v).isEmpty)
        (itemTrials o p 0 xs) ys := by
      intro t ht t' ht' y hy y' hy' h₁ h₂ h₃
      obtain ⟨x, hx, i, rfl⟩ := mem_itemTrials ht
      obtain ⟨x', hx', i', rfl⟩ := mem_itemTrials ht'
      have hxy := (hitems x hx y hy i).mp (List.isEmpty_iff.mp h₁)
      have hxy' := (hitems x' hx' y hy i').mp (List.isEmpty_iff.mp h₂)
      have hother := (hitems x' hx' y' hy' i').mp (List.isEmpty_iff.mp h₃)
      have halike : Alike o (indexPath q 0) x y' := hxy.trans (hxy'.symm.trans hother)
      exact List.isEmpty_iff.mpr ((hitems x hx y' hy' i).mpr halike)
    refine (compareUnordered_eq_nil_iff ..).mpr
      ⟨hmatch.length_eq.trans hperm.length_eq, ?_⟩
    exact Pairing.unmatched_eq_nil_of_perm hzigzag hperm
      ((forall₂_itemTrials_iff ..).mpr ((hreordered zs hperm).mpr hmatch))

theorem compare_arrays_eq_nil_iff_alike (hpq : o.Interchangeable p q)
    (hp : o.ignores p = false) :
    compare o (.array xs) p (.array ys) = [] ↔ Alike o q (.array xs) (.array ys) := by
  rw [Alike.arrays_iff (hpq.ignores_eq ▸ hp)]
  cases horder : o.unordered p with
  | true =>
      rw [compare_arrays_of_unordered hp horder, compareUnordered_eq_nil_iff_alike hitems]
      refine exists_congr fun zs => and_congr_left fun _ => ⟨fun hperm => ⟨hperm, ?_⟩, (·.perm)⟩
      exact fun hkept => absurd (horder.symm.trans (hpq.unordered_eq.trans hkept)) (by decide)
  | false =>
      rw [compare_arrays_of_kept hp horder, compareItems_eq_nil_iff_alike hitems]
      constructor
      · exact fun h => ⟨ys, ⟨List.Perm.refl _, fun _ => rfl⟩, h⟩
      · rintro ⟨zs, hzs, h⟩
        obtain rfl := hzs.kept (hpq.unordered_eq ▸ horder)
        exact h

end Arrays

/-- Objects with literal values that are compared by likeness are compared by
likeness themselves. -/
theorem compare_objects_eq_nil_iff_alike (hpq : o.Interchangeable p q)
    (hp : o.ignores p = false) {members others : List (String × Value)}
    (hmembers : (Value.object members).Literal)
    (hvalues : ∀ k v w, (k, v) ∈ members → (k, w) ∈ others →
      (compare o v (keyPath p k) w = [] ↔ Alike o (keyPath q k) v w)) :
    compare o (.object members) p (.object others) = [] ↔
      Alike o q (.object members) (.object others) := by
  have hkeys : ∀ k, o.ignores (keyPath p k) = o.ignores (keyPath q k) :=
    fun k => (hpq.member k).ignores_eq
  have hignore : ∀ k v, (k, v) ∈ members → v ≠ .matcher .ignore := by
    rintro k _ hmem rfl
    exact absurd (hmembers.members k _ hmem).matcherFree.self (by simp [Value.matcher?])
  rw [compare_objects hp, List.append_eq_nil_iff, compareMembers_eq_nil_iff,
    addedMembers_eq_nil_iff]
  simp only [hkeys]
  constructor
  · rintro ⟨hexpected, hadded⟩
    refine .object ?_ ?_
    · intro k hk
      rw [Bool.eq_iff_iff, lookup_isSome, lookup_isSome]
      constructor
      · rintro ⟨v, hv⟩
        obtain ⟨w, hw, -⟩ := hexpected k v hv hk (hignore k v hv)
        exact ⟨w, mem_of_lookup_eq_some hw⟩
      · rintro ⟨w, hw⟩
        exact hadded k w hw hk
    · intro k v w hk hv hw
      have hmem := mem_of_lookup_eq_some hv
      obtain ⟨u, hu, hnil⟩ := hexpected k v hmem hk (hignore k v hmem)
      obtain rfl := Option.some.inj (hu.symm.trans hw)
      exact (hvalues k v u hmem (mem_of_lookup_eq_some hu)).mp hnil
  · intro h
    cases h with
    | ignored h => exact absurd (hp.symm.trans (hpq.ignores_eq.trans h)) (by decide)
    | number hx => simp [Value.number?] at hx
    | object hsame halike =>
        constructor
        · intro k v hmem hk _
          have hv := lookup_eq_some_of_mem hmembers.canonical.ascending hmem
          have hsome : (lookup k others).isSome = true := by
            rw [← hsame k hk, hv]
            rfl
          obtain ⟨w, hw⟩ := Option.isSome_iff_exists.mp hsome
          exact ⟨w, hw, (hvalues k v w hmem (mem_of_lookup_eq_some hw)).mpr
            (halike k v w hk hv hw)⟩
        · intro k w hmem hk
          rw [← lookup_isSome, hsame k hk, lookup_isSome]
          exact ⟨w, hmem⟩

end Comparison

/-- **The comparison of literal trees decides likeness**, at any place that
cannot be told from the one compared at. -/
theorem compare_eq_nil_iff_alike {o : Options} (ho : o.IndexFree) {p q : String}
    (hpq : o.Interchangeable p q) {x y : Value} (hx : x.Literal) (hy : y.Literal) :
    compare o x p y = [] ↔ Alike o q x y := by
  induction x generalizing p q y with
  | array xs ih =>
      refine compare_eq_nil_iff_alike_of_counts hpq fun hp => ?_
      cases y with
      | array ys =>
          exact compare_arrays_eq_nil_iff_alike (fun x hmem y hmem' i =>
            ih x hmem (hpq.item ho i 0) (hx.items x hmem) (hy.items y hmem')) hpq hp
      | _ =>
          have hq : o.ignores q = false := hpq.ignores_eq ▸ hp
          refine iff_of_false ?_ fun h => ?_
          · exact compare_ne_nil_of_typeName_ne hp rfl (by simp) (by simp [Value.typeName])
          · cases h <;> simp_all [Value.number?]
  | object members ih =>
      refine compare_eq_nil_iff_alike_of_counts hpq fun hp => ?_
      cases y with
      | object others =>
          exact compare_objects_eq_nil_iff_alike hpq hp hx fun k v w hv hw =>
            ih k v hv (hpq.member k) (hx.members k v hv) (hy.members k w hw)
      | _ =>
          have hq : o.ignores q = false := hpq.ignores_eq ▸ hp
          refine iff_of_false ?_ fun h => ?_
          · exact compare_ne_nil_of_typeName_ne hp rfl (by simp) (by simp [Value.typeName])
          · cases h <;> simp_all [Value.number?]
  | matcher m => exact absurd hx.matcherFree.self (by simp [Value.matcher?])
  | _ => exact compare_scalar_eq_nil_iff_alike hpq rfl y

/-! ## Arrays in any order -/

/-- Two lists match place by place, each pair at the path of its place. -/
def ItemsMatch (o : Options) (path : String) (xs zs : List Value) : Prop :=
  xs.length = zs.length ∧
    ∀ (i : Nat) x z, xs[i]? = some x → zs[i]? = some z → compare o x (indexPath path i) z = []

theorem itemsMatch_iff {o : Options} {path : String} {xs zs : List Value} :
    ItemsMatch o path xs zs ↔ compareItems o path 0 xs zs = [] := by
  rw [compareItems_eq_nil_iff]
  simp only [Nat.zero_add]
  rfl

/-- **Arrays that match do so in some order**, even if they hold matchers. -/
theorem exists_itemsMatch_of_compare {o : Options} {path : String}
    (hpath : o.ignores path = false) {xs ys : List Value}
    (h : compare o (.array xs) path (.array ys) = []) :
    ∃ zs, zs.Perm ys ∧ ItemsMatch o path xs zs := by
  cases horder : o.unordered path with
  | true =>
      rw [compare_arrays_of_unordered hpath horder] at h
      obtain ⟨zs, hperm, hnil⟩ := exists_perm_of_compareUnordered h
      exact ⟨zs, hperm, itemsMatch_iff.mpr hnil⟩
  | false =>
      rw [compare_arrays_of_kept hpath horder] at h
      exact ⟨ys, List.Perm.refl _, itemsMatch_iff.mpr h⟩

/-- Literal arrays whose order does not count match if some order matches. -/
theorem compare_eq_nil_of_itemsMatch {o : Options} (ho : o.IndexFree) {path : String}
    (horder : o.unordered path = true) {xs ys zs : List Value}
    (hxs : ∀ x ∈ xs, x.Literal) (hys : ∀ y ∈ ys, y.Literal) (hperm : zs.Perm ys)
    (h : ItemsMatch o path xs zs) : compare o (.array xs) path (.array ys) = [] := by
  have hitems : ∀ x ∈ xs, ∀ y ∈ ys, ∀ i, compare o x (indexPath path i) y = [] ↔
      Alike o (indexPath path 0) x y := fun x hx y hy i =>
    compare_eq_nil_iff_alike ho ((Options.Interchangeable.refl path).item ho i 0)
      (hxs x hx) (hys y hy)
  have halike : List.Forall₂ (Alike o (indexPath path 0)) xs zs :=
    (compareItems_eq_nil_iff_alike fun x hx z hz => hitems x hx z (hperm.subset hz)).mp
      (itemsMatch_iff.mp h)
  have hpaired := (compareUnordered_eq_nil_iff_alike hitems).mpr ⟨zs, hperm, halike⟩
  exact compare_eq_nil_of_counts fun hpath =>
    (compare_arrays_of_unordered hpath horder xs ys).trans hpaired

/-- **Comparing literal trees is an equivalence.**  Under options that name no
items, the comparison of literal trees at a path is reflexive, symmetric and
transitive, and it finds nothing between arrays whose order does not count
exactly if some order of the second matches the first place by place.  Where the
arrays hold matchers, finding nothing still means that there is such an order. -/
theorem compare_literal_equivalence {o : Options} (ho : o.IndexFree) (path : String) :
    (∀ x : Value, x.Literal → compare o x path x = []) ∧
    (∀ x y : Value, x.Literal → y.Literal → compare o x path y = [] →
      compare o y path x = []) ∧
    (∀ x y z : Value, x.Literal → y.Literal → z.Literal → compare o x path y = [] →
      compare o y path z = [] → compare o x path z = []) ∧
    (o.unordered path = true → o.ignores path = false → ∀ xs ys : List Value,
      ((Value.array xs).Literal → (Value.array ys).Literal →
        (compare o (.array xs) path (.array ys) = [] ↔
          ∃ zs, zs.Perm ys ∧ ItemsMatch o path xs zs)) ∧
      (compare o (.array xs) path (.array ys) = [] →
        ∃ zs, zs.Perm ys ∧ ItemsMatch o path xs zs)) := by
  have halike : ∀ {x y : Value}, x.Literal → y.Literal →
      (compare o x path y = [] ↔ Alike o path x y) :=
    fun hx hy => compare_eq_nil_iff_alike ho (.refl path) hx hy
  refine ⟨fun x hx => compare_literal_self o hx path, ?_, ?_, ?_⟩
  · intro x y hx hy h
    exact (halike hy hx).mpr ((halike hx hy).mp h).symm
  · intro x y z hx hy hz hxy hyz
    exact (halike hx hz).mpr (((halike hx hy).mp hxy).trans ((halike hy hz).mp hyz))
  · intro horder hpath xs ys
    refine ⟨fun hxs hys => ⟨exists_itemsMatch_of_compare hpath, ?_⟩,
      exists_itemsMatch_of_compare hpath⟩
    rintro ⟨zs, hperm, h⟩
    exact compare_eq_nil_of_itemsMatch ho horder hxs.items hys.items hperm h

/-- Two items in the other order, one of them a number in another form. -/
theorem compare_literal_swapped :
    (Options.mk true [] ["stamp"]).IndexFree ∧
      (Value.array [.int 1, .string "a"]).Literal ∧
      (Value.array [.string "a", .nat 1]).Literal ∧
      compare ⟨true, [], ["stamp"]⟩ (.array [.int 1, .string "a"]) "$"
        (.array [.string "a", .nat 1]) = [] ∧
      compare ⟨true, [], ["stamp"]⟩ (.array [.string "a", .nat 1]) "$"
        (.array [.int 1, .string "a"]) = [] := by
  have ho : (Options.mk true [] ["stamp"]).IndexFree := by
    intro entry hentry
    obtain rfl : entry = "stamp" := by simpa using hentry
    decide
  have hnumber : (Value.int 1).Literal := .scalar rfl (by simp)
  have hnumber' : (Value.nat 1).Literal := .scalar rfl (by simp)
  have hstring : (Value.string "a").Literal := .scalar rfl (by simp)
  have hx : (Value.array [.int 1, .string "a"]).Literal := .array (by simp [hnumber, hstring])
  have hy : (Value.array [.string "a", .nat 1]).Literal := .array (by simp [hnumber', hstring])
  obtain ⟨-, hsymm, -, harrays⟩ := compare_literal_equivalence ho "$"
  have hmatch : ItemsMatch ⟨true, [], ["stamp"]⟩ "$" [.int 1, .string "a"]
      [.nat 1, .string "a"] := itemsMatch_iff.mpr (by decide +kernel)
  have h := ((harrays rfl (by decide) _ _).1 hx hy).mpr ⟨_, List.Perm.swap _ _ _, hmatch⟩
  exact ⟨ho, hx, hy, h, hsymm _ _ hx hy h⟩

end Expectation.Json
