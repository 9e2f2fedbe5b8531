import Expectation.Proofs.Json.Carrying
import Expectation.Proofs.Json.Reported

/-!
# The report with the documents exchanged

Which document is expected and which is actual should matter to a report only in
that the sides change places: what was added has been removed, and the other way
round.  The comparison does not look like this.  It goes by the expected value,
has one loop for the members that are expected and another one for those that are
not, and treats a null on either side in its own way.

For literal trees the report is the mirror image nevertheless, up to the order of
the differences.  Between arrays the order is the same, since both runs go by the
index.  Between objects the runs meet the keys that both have in the same order,
and what one loop reports about the other keys the other loop reports when the
documents are exchanged.

## Main results

* `stepReport_mirror`: one step down, if the values there are mirrored.
* `compareMembers_perm`: the report on two objects, by shared and other keys.
* `compare_swap_perm`: exchanging the documents mirrors the report.
-/

namespace Expectation

/-! ## Mirrored differences -/

/-- The kind of a difference when the documents change places. -/
def DifferenceKind.mirror : DifferenceKind → DifferenceKind
  | .added => .removed
  | .removed => .added
  | kind => kind

/-- The difference when the documents change places. -/
def Difference.mirror (d : Difference) : Difference :=
  ⟨d.path, d.kind.mirror, d.actual, d.expected⟩

@[simp] theorem Difference.mirror_mirror (d : Difference) : d.mirror.mirror = d := by
  obtain ⟨path, kind, expected, actual⟩ := d
  cases kind <;> rfl

namespace Json

variable {o : Options} {path : String}

@[simp] theorem mirror_added (path : String) (v : Value) :
    (added path v).mirror = removed path v := rfl

@[simp] theorem mirror_removed (path : String) (v : Value) :
    (removed path v).mirror = added path v := rfl

@[simp] theorem mirror_changed (path : String) (v w : Value) :
    (changed path v w).mirror = changed path w v := rfl

@[simp] theorem mirror_mismatched (path : String) (v w : Value) :
    (mismatched path v w).mirror = mismatched path w v := rfl

/-- One report is the other one with the documents exchanged, in some order. -/
def Mirrors (es ds : List Difference) : Prop := es.Perm (ds.map Difference.mirror)

namespace Mirrors

theorem of_eq {es ds : List Difference} (h : es = ds.map Difference.mirror) : Mirrors es ds :=
  List.Perm.of_eq h

theorem symm {es ds : List Difference} (h : Mirrors es ds) : Mirrors ds es := by
  have hback := h.map Difference.mirror
  rw [List.map_map, show Difference.mirror ∘ Difference.mirror = id from
    funext Difference.mirror_mirror, List.map_id] at hback
  exact hback.symm

/-- The order of neither report counts. -/
theorem of_perm {es es' ds ds' : List Difference} (hes : es.Perm es') (h : Mirrors es' ds')
    (hds : ds.Perm ds') : Mirrors es ds :=
  hes.trans (h.trans (hds.symm.map _))

theorem append {es es' ds ds' : List Difference} (h : Mirrors es ds) (h' : Mirrors es' ds') :
    Mirrors (es ++ es') (ds ++ ds') := by
  rw [Mirrors, List.map_append]
  exact List.Perm.append h h'

/-- Runs are mirrored if what they report at each point is. -/
theorem flatMap {α : Type} {f g : α → List Difference} {l : List α}
    (h : ∀ a ∈ l, Mirrors (f a) (g a)) : Mirrors (l.flatMap f) (l.flatMap g) := by
  rw [Mirrors, List.map_flatMap]
  exact List.Perm.flatMap_left l h

end Mirrors

/-! ## Single values -/

theorem mirrors_compareNumber (path : String) {x y : Value} (hx : x.isNumber = true)
    (hy : y.isNumber = true) :
    Mirrors (compareNumber path y x) (compareNumber path x y) := by
  obtain ⟨a, ha⟩ := Option.isSome_iff_exists.mp hx
  obtain ⟨b, hb⟩ := Option.isSome_iff_exists.mp hy
  refine .of_eq ?_
  simp only [compareNumber, ha, hb, Binary64.numEq_comm b a]
  split <;> rfl

/-! ## One step down -/

/-- What is reported one step down is mirrored if what is there on both sides is. -/
theorem stepReport_mirror {v? w? : Option Value}
    (h : ∀ v w, v? = some v → w? = some w →
      Mirrors (compare o w path v) (compare o v path w)) :
    Mirrors (stepReport o path w? v?) (stepReport o path v? w?) := by
  cases v? with
  | some v =>
      cases w? with
      | some w => exact h v w rfl rfl
      | none => exact .of_eq rfl
  | none => cases w? <;> exact .of_eq rfl

theorem mirrors_compareItems (o : Options) (path : String) {items others : List Value}
    (h : ∀ v ∈ items, ∀ w ∈ others, ∀ p, Mirrors (compare o w p v) (compare o v p w)) :
    Mirrors (compareItems o path 0 others items) (compareItems o path 0 items others) := by
  rw [compareItems_eq_flatMap, compareItems_eq_flatMap, Nat.max_comm]
  refine .flatMap fun j _ => stepReport_mirror fun v w hv hw => ?_
  exact h v (List.mem_of_getElem? hv) w (List.mem_of_getElem? hw) _

/-! ## Objects -/

/-- What is reported at a key that both objects have. -/
def sharedReport (o : Options) (path : String) (members others : List (String × Value))
    (k : String) : List Difference :=
  match lookup k members, lookup k others with
  | some v, some w => compare o v (keyPath path k) w
  | _, _ => []

/-- What is reported at an expected member that may be missing. -/
def removalReport (o : Options) (path : String) (others : List (String × Value))
    (k : String) (v : Value) : List Difference :=
  if (lookup k others).isSome || o.ignores (keyPath path k) then []
  else [removed (keyPath path k) v]

/-- An expected member is compared where both objects have it, and missing else. -/
theorem memberReport_eq_append {members others : List (String × Value)} {k : String}
    {v : Value} (hv : lookup k members = some v) (hmatcher : v.matcher? = none) :
    memberReport o path others k v =
      sharedReport o path members others k ++ removalReport o path others k v := by
  cases hw : lookup k others with
  | some w => rw [memberReport_of_lookup hw]; simp [sharedReport, removalReport, hv, hw]
  | none => simp [memberReport, sharedReport, removalReport, hv, hw, hmatcher]

/-- **Two objects are reported by shared keys and by the others**: those that only
the expected one has, and those that only the actual one has. -/
theorem compareMembers_perm {members others : List (String × Value)}
    (hmembers : Ascending members) (hmatcher : ∀ k v, (k, v) ∈ members → v.matcher? = none) :
    (compareMembers o path others members ++ addedMembers o path members others).Perm
      ((members.flatMap fun m => sharedReport o path members others m.1) ++
        ((members.flatMap fun m => removalReport o path others m.1 m.2) ++
          others.flatMap fun n => additionReport o path members n.1 n.2)) := by
  have hsplit : (members.flatMap fun m => memberReport o path others m.1 m.2) =
      members.flatMap fun m =>
        sharedReport o path members others m.1 ++ removalReport o path others m.1 m.2 :=
    List.flatMap_congr fun ⟨k, v⟩ hmem => memberReport_eq_append
      (lookup_eq_some_of_mem hmembers hmem) (hmatcher k v hmem)
  rw [compareMembers_eq_flatMap, addedMembers_eq_flatMap, hsplit, ← List.append_assoc]
  exact (List.flatMap_append_perm ..).symm.append_right _

section Objects

variable {members others : List (String × Value)} (hmembers : Ascending members)
  (hothers : Ascending others)

include hmembers hothers

/-- The runs over the shared keys are mirrored if the values at these keys are. -/
theorem mirrors_sharedReport
    (h : ∀ k v w, (k, v) ∈ members → (k, w) ∈ others → ∀ p,
      Mirrors (compare o w p v) (compare o v p w)) :
    Mirrors (others.flatMap fun n => sharedReport o path others members n.1)
      (members.flatMap fun m => sharedReport o path members others m.1) := by
  -- a shared key is met in both runs, and in the same order
  have hkeys : (members.flatMap fun m => sharedReport o path members others m.1) =
      others.flatMap fun n => sharedReport o path members others n.1 := by
    refine flatMap_keys_eq hmembers hothers fun k hk => ?_
    unfold sharedReport at hk
    split at hk
    · next v w hv hw => exact ⟨⟨v, mem_of_lookup_eq_some hv⟩, w, mem_of_lookup_eq_some hw⟩
    · exact absurd rfl hk
  rw [hkeys]
  refine .flatMap fun n _ => ?_
  unfold sharedReport
  cases hv : lookup n.1 members with
  | some v =>
      cases hw : lookup n.1 others with
      | some w => exact h _ v w (mem_of_lookup_eq_some hv) (mem_of_lookup_eq_some hw) _
      | none => exact .of_eq rfl
  | none => cases lookup n.1 others <;> exact .of_eq rfl

/-- **Objects are mirrored** if the values at the keys that both have are. -/
theorem mirrors_compareMembers (o : Options) (path : String)
    (hmatcher : ∀ k v, (k, v) ∈ members → v.matcher? = none)
    (hmatcher' : ∀ k w, (k, w) ∈ others → w.matcher? = none)
    (h : ∀ k v w, (k, v) ∈ members → (k, w) ∈ others → ∀ p,
      Mirrors (compare o w p v) (compare o v p w)) :
    Mirrors (compareMembers o path members others ++ addedMembers o path others members)
      (compareMembers o path others members ++ addedMembers o path members others) := by
  have hremoved : Mirrors (others.flatMap fun n => removalReport o path members n.1 n.2)
      (others.flatMap fun n => additionReport o path members n.1 n.2) := by
    refine .flatMap fun n _ => .of_eq ?_
    unfold removalReport additionReport
    split <;> simp
  have hadded : Mirrors (members.flatMap fun m => additionReport o path others m.1 m.2)
      (members.flatMap fun m => removalReport o path others m.1 m.2) := by
    refine .flatMap fun m _ => .of_eq ?_
    unfold removalReport additionReport
    split <;> simp
  -- the runs over the other keys have changed places
  exact .of_perm (compareMembers_perm hothers hmatcher')
    ((mirrors_sharedReport hmembers hothers h).append (hremoved.append hadded))
    ((compareMembers_perm hmembers hmatcher).trans (List.perm_append_comm.append_left _))

end Objects

/-! ## All trees -/

/-- Values that nobody looks at need not be mirrored. -/
theorem mirrors_of_counts {x y : Value}
    (h : o.ignores path = false → Mirrors (compare o y path x) (compare o x path y)) :
    Mirrors (compare o y path x) (compare o x path y) := by
  cases hpath : o.ignores path with
  | true =>
      rw [compare_of_ignores hpath, compare_of_ignores hpath]
      exact .of_eq rfl
  | false => exact h hpath

/-- Where one tree has nothing, what the other one has was added or removed. -/
theorem mirrors_null (hpath : o.ignores path = false) {y : Value} (hy : y.matcher? = none) :
    Mirrors (compare o y path .null) (compare o .null path y) := by
  refine .of_eq ?_
  rw [compare_null hpath]
  by_cases hnull : y = .null
  · subst hnull
    exact compare_null hpath .null
  · rw [compare_of_null hpath hy hnull, if_neg (hnull ∘ Value.isNull_iff.mp)]
    rfl

/-- Values of different types are mirrored. -/
theorem mirrors_of_typeName_ne {x y : Value} (hx : x.matcher? = none)
    (hy : y.matcher? = none) (htype : x.typeName ≠ y.typeName) :
    Mirrors (compare o y path x) (compare o x path y) := by
  refine mirrors_of_counts fun hpath => ?_
  by_cases hxnull : x = .null
  · exact hxnull ▸ mirrors_null hpath hy
  · by_cases hynull : y = .null
    · exact hynull ▸ (mirrors_null hpath hx).symm
    · refine .of_eq ?_
      rw [compare_of_typeName_ne hpath hx hxnull htype,
        compare_of_typeName_ne hpath hy hynull htype.symm,
        if_neg (hxnull ∘ Value.isNull_iff.mp), if_neg (hynull ∘ Value.isNull_iff.mp)]
      rfl

/-- Numbers are mirrored, whatever forms they have. -/
theorem mirrors_numbers {x y : Value} (hx : x.isNumber = true) (hy : y.isNumber = true) :
    Mirrors (compare o y path x) (compare o x path y) := by
  refine mirrors_of_counts fun hpath => ?_
  have hnull : ∀ v : Value, v.isNumber = true → v.isNull = false := by
    intro v hv
    cases v <;> simp_all [Value.isNumber, Value.number?, Value.isNull]
  rw [compare_of_number hpath hx, compare_of_number hpath hy, hnull x hx, hnull y hy]
  exact mirrors_compareNumber path hx hy

/-- **Exchanging the documents mirrors the report.**  Between trees without
matchers, with the order of arrays kept, comparing the other way round gives the
same differences in some order, with their sides exchanged and what was added
removed. -/
theorem compare_swap_perm {o : Options} (ho : o.KeepsOrder) {expected actual : Value}
    (hexpected : expected.Canonical) (hexpectedFree : expected.MatcherFree)
    (hactual : actual.Canonical) (hactualFree : actual.MatcherFree) (path : String) :
    (compare o actual path expected).Perm
      ((compare o expected path actual).map Difference.mirror) := by
  show Mirrors _ _
  have hother : ∀ {x y : Value} {p : String}, x.MatcherFree → y.MatcherFree →
      x.typeName ≠ y.typeName → Mirrors (compare o y p x) (compare o x p y) :=
    fun hx hy htype => mirrors_of_typeName_ne hx.self hy.self htype
  induction expected generalizing actual path with
  | matcher m => exact absurd hexpectedFree.self (by simp [Value.matcher?])
  | null =>
      cases actual with
      | null => exact mirrors_of_counts fun hpath => mirrors_null hpath rfl
      | _ => exact hother hexpectedFree hactualFree (by simp [Value.typeName])
  | bool a =>
      cases actual with
      | bool b =>
          refine mirrors_of_counts fun hpath => .of_eq ?_
          by_cases hab : a = b
          · simp [compare, hpath, hab]
          · simp [compare, hpath, hab, Ne.symm hab]
      | _ => exact hother hexpectedFree hactualFree (by simp [Value.typeName])
  | string s =>
      cases actual with
      | string t =>
          refine mirrors_of_counts fun hpath => .of_eq ?_
          by_cases hst : s = t
          · simp [compare, hpath, hst]
          · simp [compare, hpath, hst, Ne.symm hst]
      | _ => exact hother hexpectedFree hactualFree (by simp [Value.typeName])
  | array items ih =>
      cases actual with
      | array others =>
          refine mirrors_of_counts fun hpath => ?_
          have hitems := mirrors_compareItems o path fun v hv w hw p =>
            ih v hv (hexpected.items v hv) (hexpectedFree.items v hv) (hactual.items w hw)
              (hactualFree.items w hw) p
          simpa [compare, hpath, ho.unordered] using hitems
      | _ => exact hother hexpectedFree hactualFree (by simp [Value.typeName])
  | object members ih =>
      cases actual with
      | object others =>
          refine mirrors_of_counts fun hpath => ?_
          have hmembers := mirrors_compareMembers hexpected.ascending
            hactual.ascending o path (fun k v hv => (hexpectedFree.members k v hv).self)
            (fun k w hw => (hactualFree.members k w hw).self) fun k v w hv hw p =>
              ih k v hv (hexpected.members k v hv) (hexpectedFree.members k v hv)
                (hactual.members k w hw) (hactualFree.members k w hw) p
          simpa [compare, hpath] using hmembers
      | _ => exact hother hexpectedFree hactualFree (by simp [Value.typeName])
  | _ =>
      cases actual with
      | int | nat | float => exact mirrors_numbers rfl rfl
      | _ => exact hother hexpectedFree hactualFree (by simp [Value.typeName])

/-- A member on either side only, a number that changed its form, a null and an
item too many. -/
theorem compare_swap_perm_record :
    Options.KeepsOrder {} ∧
      (Value.object [("a", .int 1), ("b", .array [.int 2, .null])]).Canonical ∧
      (Value.object [("a", .int 1), ("b", .array [.int 2, .null])]).MatcherFree ∧
      (Value.object [("b", .array [.nat 2]), ("c", .bool true)]).Canonical ∧
      (Value.object [("b", .array [.nat 2]), ("c", .bool true)]).MatcherFree ∧
      (compare {} (.object [("b", .array [.nat 2]), ("c", .bool true)]) "$"
          (.object [("a", .int 1), ("b", .array [.int 2, .null])])).Perm
        ((compare {} (.object [("a", .int 1), ("b", .array [.int 2, .null])]) "$"
          (.object [("b", .array [.nat 2]), ("c", .bool true)])).map Difference.mirror) := by
  have hexpected : (Value.object [("a", .int 1), ("b", .array [.int 2, .null])]).Canonical :=
    ⟨by decide +kernel, trivial, ⟨trivial, trivial, trivial⟩, trivial⟩
  have hactual : (Value.object [("b", .array [.nat 2]), ("c", .bool true)]).Canonical :=
    ⟨by decide +kernel, ⟨trivial, trivial⟩, trivial, trivial⟩
  have hexpectedFree :
      (Value.object [("a", .int 1), ("b", .array [.int 2, .null])]).MatcherFree := by
    simp [Value.MatcherFree, Value.Everywhere, Value.parts, Value.memberParts,
      Value.itemParts, Value.matcher?]
  have hactualFree :
      (Value.object [("b", .array [.nat 2]), ("c", .bool true)]).MatcherFree := by
    simp [Value.MatcherFree, Value.Everywhere, Value.parts, Value.memberParts,
      Value.itemParts, Value.matcher?]
  exact ⟨⟨rfl, rfl⟩, hexpected, hexpectedFree, hactual, hactualFree,
    compare_swap_perm ⟨rfl, rfl⟩ hexpected hexpectedFree hactual hactualFree "$"⟩

end Json

end Expectation
