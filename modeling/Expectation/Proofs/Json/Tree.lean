import Mathlib.Data.List.Forall2
import Expectation.Json.Value

/-!
# Reasoning about JSON trees

A tree holds trees in two kinds of lists, so the induction that comes with the
type speaks about those lists as well.  This file supplies the principle that
proofs use instead: to show something of every tree, show it of an array and
of an object whose parts have it already.

Conditions on whole trees are conditions on their parts: `parts` lists a tree
and everything inside it, and `Everywhere` asks something of each of them.

## Main results

* `Value.induct`: induction on trees.
* `everywhere_array`, `everywhere_object`: a condition on the parts, one level
  at a time.
* `exists_right_of_forall₂`, `exists_left_of_forall₂`: the partners of lists that match.
* `lookup_eq_some_of_mem`: with ascending keys, every member is found at its
  key.
-/

namespace Expectation.Json

/-! ## Lists that match place by place -/

section Match

variable {α β : Type} {R : α → β → Prop} {as : List α} {bs : List β}

/-- Matching lists have equal lengths and match place by place. -/
theorem forall₂_iff_getElem? :
    List.Forall₂ R as bs ↔
      as.length = bs.length ∧
        ∀ (i : Nat) a b, as[i]? = some a → bs[i]? = some b → R a b := by
  rw [List.forall₂_iff_get]
  refine and_congr Iff.rfl ⟨?_, ?_⟩
  · intro h i a b ha hb
    obtain ⟨hi, rfl⟩ := List.getElem?_eq_some_iff.mp ha
    obtain ⟨hj, rfl⟩ := List.getElem?_eq_some_iff.mp hb
    exact h i hi hj
  · intro h i hi hj
    exact h i _ _ (List.getElem?_eq_getElem hi) (List.getElem?_eq_getElem hj)

/-- In lists that match, everyone in the first has a partner in the second. -/
theorem exists_right_of_forall₂ (h : List.Forall₂ R as bs) {a : α} (ha : a ∈ as) :
    ∃ b ∈ bs, R a b := by
  obtain ⟨hlength, hpairs⟩ := forall₂_iff_getElem?.mp h
  obtain ⟨i, hi, rfl⟩ := List.mem_iff_getElem.mp ha
  have hj : i < bs.length := hlength ▸ hi
  exact ⟨bs[i], List.getElem_mem hj,
    hpairs i _ _ (List.getElem?_eq_getElem hi) (List.getElem?_eq_getElem hj)⟩

theorem exists_left_of_forall₂ (h : List.Forall₂ R as bs) {b : β} (hb : b ∈ bs) :
    ∃ a ∈ as, R a b :=
  exists_right_of_forall₂ (R := flip R) (List.Forall₂.flip h) hb

end Match

/-! ## Induction -/

namespace Value

/-- Induction on trees: the items of an array and the values of an object may
be assumed to have the property already. -/
@[elab_as_elim, induction_eliminator]
theorem induct {motive : Value → Prop} (null : motive .null)
    (bool : ∀ b, motive (.bool b)) (int : ∀ i, motive (.int i))
    (nat : ∀ n, motive (.nat n)) (float : ∀ x, motive (.float x))
    (string : ∀ s, motive (.string s))
    (array : ∀ items, (∀ v ∈ items, motive v) → motive (.array items))
    (object : ∀ members, (∀ k v, (k, v) ∈ members → motive v) →
      motive (.object members))
    (matcher : ∀ m, motive (.matcher m)) (v : Value) : motive v := by
  refine @Value.rec motive (fun items => ∀ v ∈ items, motive v)
    (fun members => ∀ k v, (k, v) ∈ members → motive v)
    (fun member => motive member.2)
    null bool int nat float string array object matcher ?_ ?_ ?_ ?_ ?_ v
  · intro v hv
    exact absurd hv List.not_mem_nil
  · intro v vs hhead htail w hw
    rcases List.mem_cons.mp hw with rfl | hw
    · exact hhead
    · exact htail w hw
  · intro k v hv
    exact absurd hv List.not_mem_nil
  · intro member members hhead htail k v hv
    rcases List.mem_cons.mp hv with rfl | hv
    · exact hhead
    · exact htail k v hv
  · intro k v hv
    exact hv

/-- A value that holds no other values and is no matcher. -/
def isScalar : Value → Bool
  | .array _ | .object _ | .matcher _ => false
  | _ => true

/-! ## The parts of a tree -/

mutual

/-- A tree and every tree inside it. -/
def parts : Value → List Value
  | .array items => .array items :: itemParts items
  | .object members => .object members :: memberParts members
  | v => [v]

/-- The parts of every item. -/
def itemParts : List Value → List Value
  | [] => []
  | v :: vs => parts v ++ itemParts vs

/-- The parts of the value of every member. -/
def memberParts : List (String × Value) → List Value
  | [] => []
  | (_, v) :: ms => parts v ++ memberParts ms

end

theorem mem_itemParts (w : Value) (items : List Value) :
    w ∈ itemParts items ↔ ∃ v ∈ items, w ∈ v.parts := by
  induction items with
  | nil => simp [itemParts]
  | cons v vs ih => simp [itemParts, ih]

theorem mem_memberParts (w : Value) (members : List (String × Value)) :
    w ∈ memberParts members ↔ ∃ k v, (k, v) ∈ members ∧ w ∈ v.parts := by
  induction members with
  | nil => simp [memberParts]
  | cons member ms ih =>
      obtain ⟨k, v⟩ := member
      rw [memberParts, List.mem_append, ih]
      constructor
      · rintro (hw | ⟨l, u, hmem, hw⟩)
        · exact ⟨k, v, List.mem_cons_self, hw⟩
        · exact ⟨l, u, List.mem_cons_of_mem _ hmem, hw⟩
      · rintro ⟨l, u, hmem, hw⟩
        rcases List.mem_cons.mp hmem with heq | hmem
        · cases heq
          exact .inl hw
        · exact .inr ⟨l, u, hmem, hw⟩

/-- A tree is one of its own parts. -/
theorem self_mem_parts (v : Value) : v ∈ v.parts := by
  cases v <;> simp [parts]

/-- Every part of a tree, the tree itself included, has the property. -/
def Everywhere (p : Value → Prop) (v : Value) : Prop := ∀ w ∈ v.parts, p w

instance {p : Value → Prop} [DecidablePred p] (v : Value) : Decidable (v.Everywhere p) :=
  inferInstanceAs (Decidable (∀ w ∈ v.parts, p w))

theorem Everywhere.self {p : Value → Prop} {v : Value} (h : v.Everywhere p) : p v :=
  h v v.self_mem_parts

theorem everywhere_array {p : Value → Prop} {items : List Value} :
    (Value.array items).Everywhere p ↔
      p (.array items) ∧ ∀ v ∈ items, v.Everywhere p := by
  simp only [Everywhere, parts, List.mem_cons, mem_itemParts]
  constructor
  · intro h
    exact ⟨h _ (.inl rfl), fun v hv w hw => h w (.inr ⟨v, hv, hw⟩)⟩
  · rintro ⟨hself, hitems⟩ w (rfl | ⟨v, hv, hw⟩)
    · exact hself
    · exact hitems v hv w hw

theorem everywhere_object {p : Value → Prop} {members : List (String × Value)} :
    (Value.object members).Everywhere p ↔
      p (.object members) ∧ ∀ k v, (k, v) ∈ members → v.Everywhere p := by
  simp only [Everywhere, parts, List.mem_cons, mem_memberParts]
  constructor
  · intro h
    exact ⟨h _ (.inl rfl), fun k v hv w hw => h w (.inr ⟨k, v, hv, hw⟩)⟩
  · rintro ⟨hself, hmembers⟩ w (rfl | ⟨k, v, hv, hw⟩)
    · exact hself
    · exact hmembers k v hv w hw

/-- No part of the tree is a matcher. -/
def MatcherFree (v : Value) : Prop := v.Everywhere fun w => w.matcher? = none

/-- No part of the tree is a NaN. -/
def NaNFree (v : Value) : Prop :=
  v.Everywhere fun w => ∀ x, w = .float x → x.isNaN = false

theorem MatcherFree.items {items : List Value} (h : (Value.array items).MatcherFree) :
    ∀ v ∈ items, v.MatcherFree :=
  (everywhere_array.mp h).2

theorem MatcherFree.members {members : List (String × Value)}
    (h : (Value.object members).MatcherFree) : ∀ k v, (k, v) ∈ members → v.MatcherFree :=
  (everywhere_object.mp h).2

theorem NaNFree.items {items : List Value} (h : (Value.array items).NaNFree) :
    ∀ v ∈ items, v.NaNFree :=
  (everywhere_array.mp h).2

theorem NaNFree.members {members : List (String × Value)}
    (h : (Value.object members).NaNFree) : ∀ k v, (k, v) ∈ members → v.NaNFree :=
  (everywhere_object.mp h).2

end Value

/-! ## Members by ascending key -/

/-- The keys of the members ascend. -/
def Ascending {α : Type} (members : List (String × α)) : Prop :=
  members.Pairwise fun a b => a.1 < b.1

/-- Whether keys ascend depends on the keys alone. -/
theorem ascending_iff_map_fst {α : Type} {members : List (String × α)} :
    Ascending members ↔ (members.map Prod.fst).Pairwise (· < ·) :=
  List.pairwise_map.symm

/-- Keys that ascend are different. -/
theorem keys_nodup_of_ascending {α : Type} {members : List (String × α)}
    (h : Ascending members) : (members.map Prod.fst).Nodup := by
  refine (ascending_iff_map_fst.mp h).imp ?_
  rintro a _ hlt rfl
  exact String.lt_irrefl a hlt

theorem mem_of_lookup_eq_some {α : Type} {key : String} {value : α}
    {members : List (String × α)} (h : lookup key members = some value) :
    (key, value) ∈ members := by
  induction members with
  | nil => simp [lookup] at h
  | cons member ms ih =>
      obtain ⟨k, v⟩ := member
      by_cases hk : k = key
      · subst hk
        have hv : v = value := by simpa [lookup] using h
        rw [hv]
        exact List.mem_cons_self
      · have htail : lookup key ms = some value := by simpa [lookup, hk] using h
        exact List.mem_cons_of_mem _ (ih htail)

/-- **Ascending keys make members unambiguous.**  What stands at a key is the
member with that key. -/
theorem lookup_eq_some_of_mem {α : Type} {key : String} {value : α}
    {members : List (String × α)} (hasc : Ascending members)
    (h : (key, value) ∈ members) : lookup key members = some value := by
  induction members with
  | nil => exact absurd h List.not_mem_nil
  | cons member ms ih =>
      obtain ⟨k, v⟩ := member
      obtain ⟨hhead, htail⟩ := List.pairwise_cons.mp hasc
      rcases List.mem_cons.mp h with heq | hmem
      · cases heq
        simp [lookup]
      · have hlt : k < key := hhead _ hmem
        have hne : k ≠ key := fun heq => String.lt_irrefl key (heq ▸ hlt)
        simpa [lookup, hne] using ih htail hmem

theorem lookup_isSome {α : Type} {key : String} {members : List (String × α)} :
    (lookup key members).isSome = true ↔ ∃ v, (key, v) ∈ members := by
  induction members with
  | nil => simp [lookup]
  | cons member ms ih =>
      obtain ⟨k, v⟩ := member
      by_cases hk : k = key
      · subst hk
        simp only [lookup, if_true, Option.isSome_some, true_iff]
        exact ⟨v, List.mem_cons_self⟩
      · have hne : ¬ key = k := fun heq => hk heq.symm
        simp [lookup, hk, hne, ih]

/-- Changing the values of all members changes what is found at a key alike. -/
theorem lookup_mapValues {α β : Type} (f : String → α → β) (key : String)
    (members : List (String × α)) :
    lookup key (members.map fun (k, v) => (k, f k v)) = (lookup key members).map (f key) := by
  induction members with
  | nil => rfl
  | cons member ms ih =>
      obtain ⟨k, v⟩ := member
      by_cases hk : k = key
      · subst hk
        simp [lookup]
      · simpa [lookup, hk] using ih

namespace Value

theorem canonicalItems_iff {items : List Value} :
    CanonicalItems items ↔ ∀ v ∈ items, v.Canonical := by
  induction items with
  | nil => simp [CanonicalItems]
  | cons v vs ih => simp [CanonicalItems, ih]

theorem canonicalMembers_iff {members : List (String × Value)} :
    CanonicalMembers members ↔ ∀ k v, (k, v) ∈ members → v.Canonical := by
  induction members with
  | nil => simp [CanonicalMembers]
  | cons member ms ih =>
      obtain ⟨k, v⟩ := member
      rw [CanonicalMembers, ih]
      constructor
      · rintro ⟨hv, hms⟩ l u hmem
        rcases List.mem_cons.mp hmem with heq | hmem
        · cases heq
          exact hv
        · exact hms l u hmem
      · intro h
        exact ⟨h k v List.mem_cons_self, fun l u hmem => h l u (List.mem_cons_of_mem _ hmem)⟩

theorem Canonical.items {items : List Value} (h : (Value.array items).Canonical) :
    ∀ v ∈ items, v.Canonical :=
  canonicalItems_iff.mp h

theorem Canonical.ascending {members : List (String × Value)}
    (h : (Value.object members).Canonical) : Ascending members :=
  h.1

theorem Canonical.members {members : List (String × Value)}
    (h : (Value.object members).Canonical) : ∀ k v, (k, v) ∈ members → v.Canonical :=
  canonicalMembers_iff.mp h.2

/-! ## Literal trees -/

/-- A tree that stands for itself only, as actual documents do: its keys ascend
and it holds neither matchers nor NaNs. -/
structure Literal (v : Value) : Prop where
  canonical : v.Canonical
  matcherFree : v.MatcherFree
  nanFree : v.NaNFree

namespace Literal

theorem items {items : List Value} (h : (Value.array items).Literal) :
    ∀ v ∈ items, v.Literal :=
  fun v hv => ⟨h.canonical.items v hv, h.matcherFree.items v hv, h.nanFree.items v hv⟩

theorem members {members : List (String × Value)} (h : (Value.object members).Literal) :
    ∀ k v, (k, v) ∈ members → v.Literal :=
  fun k v hv => ⟨h.canonical.members k v hv, h.matcherFree.members k v hv,
    h.nanFree.members k v hv⟩

/-- A scalar is literal unless it is a NaN. -/
theorem scalar {v : Value} (hscalar : v.isScalar = true)
    (hnan : ∀ x, v = .float x → x.isNaN = false) : v.Literal := by
  have hself : ∀ {p : Value → Prop}, p v → v.Everywhere p := by
    intro p hp w hw
    have hw' : w = v := by cases v <;> simp_all [parts, isScalar]
    rwa [hw']
  refine ⟨?_, hself ?_, hself hnan⟩
  · cases v with
    | array | object => exact absurd hscalar Bool.false_ne_true
    | _ => trivial
  · cases v with
    | matcher => exact absurd hscalar Bool.false_ne_true
    | _ => rfl

/-- An array of literal trees is literal. -/
theorem array {items : List Value} (h : ∀ v ∈ items, v.Literal) :
    (Value.array items).Literal where
  canonical := canonicalItems_iff.mpr fun v hv => (h v hv).canonical
  matcherFree := everywhere_array.mpr ⟨rfl, fun v hv => (h v hv).matcherFree⟩
  nanFree := everywhere_array.mpr ⟨by rintro x ⟨⟩, fun v hv => (h v hv).nanFree⟩

/-- An object with ascending keys and literal values is literal. -/
theorem object {members : List (String × Value)} (hasc : Ascending members)
    (h : ∀ k v, (k, v) ∈ members → v.Literal) : (Value.object members).Literal where
  canonical := ⟨hasc, canonicalMembers_iff.mpr fun k v hv => (h k v hv).canonical⟩
  matcherFree := everywhere_object.mpr ⟨rfl, fun k v hv => (h k v hv).matcherFree⟩
  nanFree := everywhere_object.mpr ⟨by rintro x ⟨⟩, fun k v hv => (h k v hv).nanFree⟩

end Literal

end Value

end Expectation.Json
