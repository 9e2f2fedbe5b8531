import Expectation.Proofs.Json.Reported
import Expectation.Proofs.Json.Succession

/-!
# Masking a part of the expected document

A part of an expected document that is not to be compared is replaced by the matcher that
ignores what it stands for.  Above that part the comparison goes the same way as before: the
same types meet, the same keys and indices are visited.  So the two reports have the same
differences, up to the values that are shown, but for one block, which is what the
comparison found in the part.

Where an actual document has nothing in the place of the part, it depends on the last step
whether that is reported: a missing member is, unless it is to be ignored, and an item past
the end of the actual array is in any case.

## Main results

* `cut_compareMembers`, `cut_compareItems`: the loops, when one value is changed.
* `cut_maskAt`: the reports about a document and about the masked one.
* `compare_maskAt`: what masking takes out of a report.
-/

namespace Expectation.Json

/-! ## Replacing a part -/

/-- The members with the value at a key changed. -/
def updateMember (key : String) (f : Value → Value) :
    List (String × Value) → List (String × Value)
  | [] => []
  | (k, v) :: rest => if k = key then (k, f v) :: rest else (k, v) :: updateMember key f rest

/-- Changing a value leaves the keys as they are. -/
theorem isSome_lookup_updateMember (key other : String) (f : Value → Value)
    (members : List (String × Value)) :
    (lookup other (updateMember key f members)).isSome = (lookup other members).isSome := by
  induction members with
  | nil => rfl
  | cons member ms ih =>
      obtain ⟨k, v⟩ := member
      unfold updateMember
      split <;> by_cases hk : k = other <;> simp [lookup, hk, ih]

namespace Value

/-- The tree with the part at a place replaced. -/
def replaceAt (new : Value) : Place → Value → Value
  | [], _ => new
  | .key k :: q, .object members => .object (updateMember k (replaceAt new q) members)
  | .index i :: q, .array items => .array (items.modify i (replaceAt new q))
  | _ :: _, v => v

/-- The tree with the part at a place masked. -/
def maskAt (q : Place) (v : Value) : Value := replaceAt (.matcher .ignore) q v

theorem maskAt_key (k : String) (q : Place) (members : List (String × Value)) :
    (Value.object members).maskAt (.key k :: q) =
      .object (updateMember k (maskAt q) members) :=
  rfl

theorem maskAt_index (i : Nat) (q : Place) (items : List Value) :
    (Value.array items).maskAt (.index i :: q) = .array (items.modify i (maskAt q)) :=
  rfl

/-- A value with parts is no matcher, and masking a part does not make it one. -/
theorem matcher?_of_step? {u w : Value} {s : Step} (h : u.step? s = some w) (q : Place) :
    u.matcher? = none ∧ (u.maskAt (s :: q)).matcher? = none := by
  cases u with
  | array | object => cases s <;> exact ⟨rfl, rfl⟩
  | _ => exact absurd h (by simp [step?])

end Value

/-! ## Reports with a block cut out -/

/-- A difference without the values that it shows. -/
def heading (d : Difference) : String × DifferenceKind := (d.path, d.kind)

/-- As far as paths and kinds go, a report is another one without a block of the given
kind. -/
def Cut (block : List (String × DifferenceKind) → Prop) (full rest : List Difference) : Prop :=
  ∃ before middle after, full.map heading = before ++ middle ++ after ∧
    rest.map heading = before ++ after ∧ block middle

namespace Cut

variable {block : List (String × DifferenceKind) → Prop} {full rest : List Difference}

/-- Nothing is cut out. -/
theorem of_eq (hnone : block []) (h : full.map heading = rest.map heading) :
    Cut block full rest :=
  ⟨full.map heading, [], [], by simp, by simp [h], hnone⟩

/-- All is cut out. -/
theorem whole (h : block (full.map heading)) : Cut block full [] :=
  ⟨[], full.map heading, [], by simp, rfl, h⟩

theorem append_left (ds : List Difference) (h : Cut block full rest) :
    Cut block (ds ++ full) (ds ++ rest) := by
  obtain ⟨before, middle, after, hfull, hrest, hmiddle⟩ := h
  exact ⟨ds.map heading ++ before, middle, after, by simp [hfull], by simp [hrest], hmiddle⟩

theorem append_right (ds : List Difference) (h : Cut block full rest) :
    Cut block (full ++ ds) (rest ++ ds) := by
  obtain ⟨before, middle, after, hfull, hrest, hmiddle⟩ := h
  exact ⟨before, middle, after ++ ds.map heading, by simp [hfull], by simp [hrest], hmiddle⟩

end Cut

/-! ## The loops -/

section Loops

variable {o : Options} {path : String} {block : List (String × DifferenceKind) → Prop}
  {f : Value → Value} {u : Value}

/-- A block cut out at one expected member is cut out of the report on all. -/
theorem cut_compareMembers {k : String} {members others : List (String × Value)}
    (hu : lookup k members = some u)
    (h : Cut block (memberReport o path others k u) (memberReport o path others k (f u))) :
    Cut block (compareMembers o path others members)
      (compareMembers o path others (updateMember k f members)) := by
  rw [compareMembers_eq_flatMap, compareMembers_eq_flatMap]
  induction members with
  | nil => exact absurd hu (by simp [lookup])
  | cons member ms ih =>
      obtain ⟨l, v⟩ := member
      by_cases hl : l = k
      · subst hl
        obtain rfl : v = u := by simpa [lookup] using hu
        simpa [updateMember] using h.append_right _
      · have hrest := ih (by simpa [lookup, hl] using hu)
        simpa [updateMember, hl] using hrest.append_left (memberReport o path others l v)

/-- The members that are not expected are found by keys alone. -/
theorem addedMembers_updateMember (o : Options) (path k : String)
    (members others : List (String × Value)) :
    addedMembers o path (updateMember k f members) others =
      addedMembers o path members others := by
  simp only [addedMembers_eq_flatMap, additionReport, isSome_lookup_updateMember]

/-- The first item is reported on, then the others. -/
theorem compareItems_cons (o : Options) (path : String) (i : Nat) (v : Value)
    (vs others : List Value) :
    compareItems o path i (v :: vs) others =
      stepReport o (indexPath path i) (some v) others[0]? ++
        compareItems o path (i + 1) vs others.tail := by
  cases others with
  | nil => rw [compareItems]; rfl
  | cons w ws => rw [compareItems]; rfl

/-- A block cut out at one item is cut out of the report on all. -/
theorem cut_compareItems {n i : Nat} {items others : List Value} (hu : items[i]? = some u)
    (h : Cut block (stepReport o (indexPath path (n + i)) (some u) others[i]?)
      (stepReport o (indexPath path (n + i)) (some (f u)) others[i]?)) :
    Cut block (compareItems o path n items others)
      (compareItems o path n (items.modify i f) others) := by
  induction items generalizing n i others with
  | nil => exact absurd hu (by simp)
  | cons v vs ih =>
      cases i with
      | zero =>
          obtain rfl : v = u := by simpa using hu
          rw [List.modify_zero_cons, compareItems_cons, compareItems_cons]
          exact h.append_right _
      | succ i =>
          rw [List.modify_succ_cons, compareItems_cons, compareItems_cons]
          refine (ih (by simpa using hu) ?_).append_left _
          rwa [List.getElem?_tail, Nat.add_right_comm]

end Loops

/-! ## Masking -/

/-- The block that a comparison finds in a part of the expected document, given its path and
what the actual document has in its place: nothing, that it is missing, or the differences
between the part and what is there. -/
def FoundIn (o : Options) (part : Value) (path : String) (found : Option Value)
    (block : List (String × DifferenceKind)) : Prop :=
  block = [] ∨ (found = none ∧ block = [(path, .removed)]) ∨
    ∃ w, found = some w ∧ block = (compare o part path w).map heading

/-- At the member that holds the part, the block is cut out of what is reported if it is so
for the values. -/
theorem cut_memberReport {o : Options} {path k : String} (others : List (String × Value))
    {u v : Value} {q : Place} (hv : u.at? q = some v)
    (h : ∀ w, Cut (FoundIn o v (q.render (keyPath path k)) (w.at? q))
      (compare o u (keyPath path k) w) (compare o (u.maskAt q) (keyPath path k) w)) :
    Cut (FoundIn o v (q.render (keyPath path k)) ((Value.object others).at? (.key k :: q)))
      (memberReport o path others k u) (memberReport o path others k (u.maskAt q)) := by
  have hfound : (Value.object others).at? (.key k :: q) =
      (lookup k others).bind fun w => w.at? q := Value.at?_cons _ _ _
  rw [hfound]
  cases hcounts : o.ignores (keyPath path k) with
  | true => exact .of_eq (.inl rfl) (by simp [memberReport, hcounts])
  | false =>
      cases q with
      | nil =>
          -- the member itself is masked, so that it is not looked at any more
          obtain rfl : u = v := Option.some.inj hv
          have hmasked : memberReport o path others k (u.maskAt []) = [] := by
            simp [memberReport, Value.maskAt, Value.replaceAt, Value.matcher?, Matcher.isIgnore]
          rw [hmasked]
          refine .whole ?_
          unfold memberReport
          split
          · exact .inl rfl
          · cases lookup k others with
            | none => exact .inr (.inl ⟨rfl, rfl⟩)
            | some w => exact .inr (.inr ⟨w, rfl, rfl⟩)
      | cons s q =>
          rw [Value.at?_cons, Option.bind_eq_some_iff] at hv
          obtain ⟨part, hpart, -⟩ := hv
          obtain ⟨hu, hmasked⟩ := Value.matcher?_of_step? hpart q
          simp only [memberReport, hcounts, hu, hmasked, Option.any_none, Bool.or_false]
          cases lookup k others with
          | none => exact .of_eq (.inl rfl) rfl
          | some w => exact h w

/-- So it is at the item that holds the part. -/
theorem cut_stepReport {o : Options} {path : String} {i : Nat} (others : List Value)
    {u v : Value} {q : Place}
    (h : ∀ w, Cut (FoundIn o v (q.render (indexPath path i)) (w.at? q))
      (compare o u (indexPath path i) w) (compare o (u.maskAt q) (indexPath path i) w)) :
    Cut (FoundIn o v (q.render (indexPath path i)) ((Value.array others).at? (.index i :: q)))
      (stepReport o (indexPath path i) (some u) others[i]?)
      (stepReport o (indexPath path i) (some (u.maskAt q)) others[i]?) := by
  have hfound : (Value.array others).at? (.index i :: q) =
      others[i]?.bind fun w => w.at? q := Value.at?_cons _ _ _
  rw [hfound]
  cases others[i]? with
  | none => exact .of_eq (.inl rfl) rfl
  | some w => exact h w

/-- Two reports on values that nobody looks at are the same. -/
theorem cut_of_counts {o : Options} {path : String} {expected masked actual : Value}
    {block : List (String × DifferenceKind) → Prop} (hnone : block [])
    (h : o.ignores path = false →
      Cut block (compare o expected path actual) (compare o masked path actual)) :
    Cut block (compare o expected path actual) (compare o masked path actual) := by
  cases hpath : o.ignores path with
  | true =>
      rw [compare_of_ignores hpath, compare_of_ignores hpath]
      exact .of_eq hnone rfl
  | false => exact h hpath

/-- Next to a value of another type, nothing inside is looked at. -/
theorem cut_of_typeName_ne {o : Options} {path : String} {v v' actual : Value}
    {block : List (String × DifferenceKind) → Prop} (hnone : block [])
    (hpath : o.ignores path = false) (hv : v.matcher? = none) (hv' : v'.matcher? = none)
    (hnull : v ≠ .null) (hnull' : v' ≠ .null) (hsame : v.typeName = v'.typeName)
    (htype : v.typeName ≠ actual.typeName) :
    Cut block (compare o v path actual) (compare o v' path actual) := by
  refine .of_eq hnone ?_
  rw [compare_of_typeName_ne hpath hv hnull htype,
    compare_of_typeName_ne hpath hv' hnull' (hsame ▸ htype)]
  split <;> rfl

theorem cut_compare_object {o : Options} {path k : String} {members : List (String × Value)}
    {u v : Value} {q : Place} (hu : lookup k members = some u) (hv : u.at? q = some v)
    (h : ∀ w, Cut (FoundIn o v (q.render (keyPath path k)) (w.at? q))
      (compare o u (keyPath path k) w) (compare o (u.maskAt q) (keyPath path k) w))
    (actual : Value) :
    Cut (FoundIn o v (q.render (keyPath path k)) (actual.at? (.key k :: q)))
      (compare o (.object members) path actual)
      (compare o (.object (updateMember k (Value.maskAt q) members)) path actual) := by
  refine cut_of_counts (.inl rfl) fun hpath => ?_
  cases actual with
  | object others =>
      have hmembers := cut_compareMembers hu (cut_memberReport others hv h)
      rw [compare_objects hpath, compare_objects hpath, addedMembers_updateMember]
      exact hmembers.append_right (addedMembers o path members others)
  | _ =>
      refine cut_of_typeName_ne (.inl rfl) hpath rfl rfl (by simp) (by simp) rfl ?_
      simp [Value.typeName]

theorem cut_compare_array {o : Options} (ho : o.KeepsOrder) {path : String} {i : Nat}
    {items : List Value} {u v : Value} {q : Place} (hu : items[i]? = some u)
    (h : ∀ w, Cut (FoundIn o v (q.render (indexPath path i)) (w.at? q))
      (compare o u (indexPath path i) w) (compare o (u.maskAt q) (indexPath path i) w))
    (actual : Value) :
    Cut (FoundIn o v (q.render (indexPath path i)) (actual.at? (.index i :: q)))
      (compare o (.array items) path actual)
      (compare o (.array (items.modify i (Value.maskAt q))) path actual) := by
  refine cut_of_counts (.inl rfl) fun hpath => ?_
  cases actual with
  | array others =>
      have hitems : Cut _ (compareItems o path 0 items others)
          (compareItems o path 0 (items.modify i (Value.maskAt q)) others) :=
        cut_compareItems hu (by rw [Nat.zero_add]; exact cut_stepReport others h)
      rw [compare_arrays_of_kept hpath (ho.unordered path),
        compare_arrays_of_kept hpath (ho.unordered path)]
      exact hitems
  | _ =>
      refine cut_of_typeName_ne (.inl rfl) hpath rfl rfl (by simp) (by simp) rfl ?_
      simp [Value.typeName]

/-- **Masking a part cuts a block out of the report**, namely what is found in the part. -/
theorem cut_maskAt {o : Options} (ho : o.KeepsOrder) {expected v : Value} {q : Place}
    (hq : expected.at? q = some v) (path : String) (actual : Value) :
    Cut (FoundIn o v (q.render path) (actual.at? q)) (compare o expected path actual)
      (compare o (expected.maskAt q) path actual) := by
  induction q generalizing expected path actual with
  | nil =>
      obtain rfl : expected = v := Option.some.inj hq
      rw [show expected.maskAt [] = .matcher .ignore from rfl, compare_ignore]
      exact .whole (.inr (.inr ⟨actual, rfl, rfl⟩))
  | cons s q ih =>
      rw [Value.at?_cons, Option.bind_eq_some_iff] at hq
      obtain ⟨u, hu, hv⟩ := hq
      cases expected with
      | object members =>
          cases s with
          | key k =>
              rw [Value.maskAt_key]
              exact cut_compare_object hu hv (fun w => ih hv _ w) actual
          | index i => exact absurd hu (by simp [Value.step?])
      | array items =>
          cases s with
          | key k => exact absurd hu (by simp [Value.step?])
          | index i =>
              rw [Value.maskAt_index]
              exact cut_compare_array ho hu (fun w => ih hv _ w) actual
      | _ => exact absurd hu (by simp [Value.step?])

/-- **Masking only removes differences of the part.**  With the order of arrays kept, the
paths and kinds that are reported when a part of the expected document is masked are those
reported before without one block; and the block is what the comparison found in the
part. -/
theorem compare_maskAt {o : Options} (ho : o.KeepsOrder) {expected v : Value} {q : Place}
    (hq : expected.at? q = some v) (path : String) (actual : Value) :
    ((compare o (expected.maskAt q) path actual).map heading).Sublist
        ((compare o expected path actual).map heading) ∧
      ∃ before block after,
        (compare o expected path actual).map heading = before ++ block ++ after ∧
        (compare o (expected.maskAt q) path actual).map heading = before ++ after ∧
        FoundIn o v (q.render path) (actual.at? q) block := by
  obtain ⟨before, block, after, hfull, hmasked, hblock⟩ := cut_maskAt ho hq path actual
  refine ⟨?_, before, block, after, hfull, hmasked, hblock⟩
  rw [hfull, hmasked]
  exact (List.sublist_append_left before block).append_right after

/-- A masked member that is missing inside an item, with a difference next to it. -/
theorem compare_maskAt_missing :
    Options.KeepsOrder {} ∧
      (Value.object [("a", .array [.object [("b", .int 1), ("c", .int 2)]])]).at?
        [.key "a", .index 0, .key "b"] = some (.int 1) ∧
      ((compare {} ((Value.object [("a", .array [.object [("b", .int 1), ("c", .int 2)]])]).maskAt
            [.key "a", .index 0, .key "b"]) "$"
          (.object [("a", .array [.object [("c", .null)]])])).map heading).Sublist
        ((compare {} (.object [("a", .array [.object [("b", .int 1), ("c", .int 2)]])]) "$"
          (.object [("a", .array [.object [("c", .null)]])])).map heading) ∧
      (compare {} (.object [("a", .array [.object [("b", .int 1), ("c", .int 2)]])]) "$"
          (.object [("a", .array [.object [("c", .null)]])])).map heading =
        [("$.a[0].b", .removed), ("$.a[0].c", .removed)] := by
  have hpart : (Value.object [("a", .array [.object [("b", .int 1), ("c", .int 2)]])]).at?
      [.key "a", .index 0, .key "b"] = some (.int 1) := by rfl
  obtain ⟨hsublist, -⟩ := compare_maskAt (o := {}) ⟨rfl, rfl⟩ hpart "$"
    (.object [("a", .array [.object [("c", .null)]])])
  exact ⟨⟨rfl, rfl⟩, hpart, hsublist, by rfl⟩

end Expectation.Json
