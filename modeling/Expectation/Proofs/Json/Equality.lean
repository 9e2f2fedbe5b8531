import Expectation.Proofs.Json.Sameness
import Expectation.Proofs.Matcher.Telling

/-!
# Sameness is an equality

Trees that are told apart exactly can be taken for each other.  Sameness is an equivalence
of all trees, those with matchers and NaNs included, and two integers are the same in either
form.  The comparison uses another notion, that of numeric value, and asks the options along
the way; between literal trees that are the same it finds nothing all the same.

The order of items plays no part in this.  Where it does not count, each item claims the first
one that it matches, and that is always the one in its own place.

## Main results

* `same_refl`, `same_symm`, `same_trans`: sameness is an equivalence.
* `same_matcher_iff`: matchers are the same if they are written alike.
* `same_equivalence`: all of this, and that the comparison respects it.
-/

namespace Expectation.Json

/-! ## Lists that are related part by part -/

section Forall₂

variable {α : Type} {R : α → α → Prop} {as bs cs : List α}

theorem forall₂_symm_of_mem (hR : ∀ a ∈ as, ∀ b, R a b → R b a) (h : List.Forall₂ R as bs) :
    List.Forall₂ R bs as := by
  induction h with
  | nil => exact .nil
  | cons hab _ ih =>
      exact .cons (hR _ List.mem_cons_self _ hab)
        (ih fun a ha => hR a (List.mem_cons_of_mem _ ha))

theorem forall₂_trans_of_mem (hR : ∀ a ∈ as, ∀ b c, R a b → R b c → R a c)
    (hab : List.Forall₂ R as bs) (hbc : List.Forall₂ R bs cs) : List.Forall₂ R as cs := by
  induction hab generalizing cs with
  | nil => exact hbc
  | cons hhead _ ih =>
      cases hbc with
      | cons hhead' htail' =>
          exact .cons (hR _ List.mem_cons_self _ _ hhead hhead')
            (ih (fun a ha => hR a (List.mem_cons_of_mem _ ha)) htail')

end Forall₂

/-! ## Scalars that are the same -/

namespace Value

@[simp]
theorem same_bool {a b : Bool} : (Value.bool a).same (.bool b) = true ↔ a = b := beq_iff_eq

@[simp]
theorem same_int {i j : Int64} : (Value.int i).same (.int j) = true ↔ i.toInt = j.toInt :=
  Iff.trans beq_iff_eq Int64.toInt_inj.symm

@[simp]
theorem same_nat {m n : UInt64} : (Value.nat m).same (.nat n) = true ↔ m.toNat = n.toNat :=
  Iff.trans beq_iff_eq UInt64.toNat_inj.symm

@[simp]
theorem same_int_nat {i : Int64} {n : UInt64} :
    (Value.int i).same (.nat n) = true ↔ i.toInt = (n.toNat : Int) := beq_iff_eq

@[simp]
theorem same_nat_int {i : Int64} {n : UInt64} :
    (Value.nat n).same (.int i) = true ↔ i.toInt = (n.toNat : Int) := beq_iff_eq

@[simp]
theorem same_float {x y : Binary64} : (Value.float x).same (.float y) = true ↔ x = y := beq_iff_eq

@[simp]
theorem same_string {a b : String} : (Value.string a).same (.string b) = true ↔ a = b := beq_iff_eq

@[simp]
theorem same_matcher {m m' : Matcher} :
    (Value.matcher m).same (.matcher m') = true ↔ m = m' := beq_iff_eq

/-! ## An equivalence -/

theorem same_refl (v : Value) : v.same v = true := by
  induction v with
  | array items ih => exact sameItems_iff.mpr (List.forall₂_same.mpr ih)
  | object members ih =>
      exact sameMembers_iff.mpr (List.forall₂_same.mpr fun m hm => ⟨rfl, ih m.1 m.2 hm⟩)
  | null => rfl
  | _ => simp

theorem same_symm {v w : Value} (h : v.same w = true) : w.same v = true := by
  induction v generalizing w with
  | array items ih =>
      cases w with
      | array others =>
          exact sameItems_iff.mpr
            (forall₂_symm_of_mem (fun a ha _ => ih a ha) (sameItems_iff.mp h))
      | _ => contradiction
  | object members ih =>
      cases w with
      | object others =>
          refine sameMembers_iff.mpr (forall₂_symm_of_mem (fun m hm n hmn => ?_)
            (sameMembers_iff.mp h))
          exact ⟨hmn.1.symm, ih m.1 m.2 hm hmn.2⟩
      | _ => contradiction
  | null => cases w <;> first | contradiction | rfl
  | _ => cases w <;> first | contradiction | simp_all

theorem same_trans {u v w : Value} (huv : u.same v = true) (hvw : v.same w = true) :
    u.same w = true := by
  induction u generalizing v w with
  | array items ih =>
      cases v with
      | array others =>
          cases w with
          | array rest =>
              exact sameItems_iff.mpr (forall₂_trans_of_mem (fun a ha _ _ => ih a ha)
                (sameItems_iff.mp huv) (sameItems_iff.mp hvw))
          | _ => contradiction
      | _ => contradiction
  | object members ih =>
      cases v with
      | object others =>
          cases w with
          | object rest =>
              refine sameMembers_iff.mpr (forall₂_trans_of_mem (fun a ha b c hab hbc => ?_)
                (sameMembers_iff.mp huv) (sameMembers_iff.mp hvw))
              exact ⟨hab.1.trans hbc.1, ih a.1 a.2 ha hab.2 hbc.2⟩
          | _ => contradiction
      | _ => contradiction
  | null => cases v <;> first | contradiction | exact hvw
  | _ => cases v <;> first | contradiction | cases w <;> first | contradiction | simp_all

/-- Matchers are the same if they are written alike. -/
theorem same_matcher_iff {m m' : Matcher} :
    (Value.matcher m).same (.matcher m') = true ↔ m.expression = m'.expression := by
  rw [Matcher.expression_inj, same_matcher]

end Value

/-! ## What the comparison makes of it -/

/-- **Sameness is an equality that the comparison respects.**  It is an equivalence of all
trees; an integer is the same in either form, a floating-point number by its word, a matcher by
its expression.  Nothing is reported between trees that are the same, at any path and under any
options, if the expected one is literal. -/
theorem same_equivalence :
    Equivalence (fun v w : Value => v.same w = true) ∧
      (∀ (i : Int64) (n : UInt64),
        (Value.int i).same (.nat n) = true ↔ i.toInt = (n.toNat : Int)) ∧
      (∀ x y : Binary64, (Value.float x).same (.float y) = true ↔ x.bits = y.bits) ∧
      (∀ m m' : Matcher,
        (Value.matcher m).same (.matcher m') = true ↔ m.expression = m'.expression) ∧
      ∀ (o : Options) (path : String) (v w : Value), v.Literal → v.same w = true →
        compare o v path w = [] := by
  refine ⟨⟨Value.same_refl, Value.same_symm, Value.same_trans⟩, fun i n => Value.same_int_nat,
    fun x y => ?_, fun m m' => Value.same_matcher_iff,
    fun o path v w hv h => compare_of_same o hv h path⟩
  cases x
  cases y
  rw [Value.same_float, Binary64.mk.injEq]

/-- Two integers in the other form each, in an array whose order does not count and of which
an item is left out by its index. -/
theorem same_equivalence_integers :
    (Value.array [.int 1, .nat 2, .object [("a", .nat 3)]]).Literal ∧
      (Value.array [.int 1, .nat 2, .object [("a", .nat 3)]]).same
        (.array [.nat 1, .int 2, .object [("a", .int 3)]]) = true ∧
      compare ⟨true, [], ["$[1]"]⟩ (.array [.int 1, .nat 2, .object [("a", .nat 3)]]) "$"
        (.array [.nat 1, .int 2, .object [("a", .int 3)]]) = [] := by
  have hint : ∀ i, (Value.int i).Literal := fun i => .scalar rfl (by simp)
  have hnat : ∀ n, (Value.nat n).Literal := fun n => .scalar rfl (by simp)
  have hobject : ∀ {v : Value}, v.Literal → (Value.object [("a", v)]).Literal :=
    fun hv => .object (List.pairwise_singleton _ _) (by simpa using hv)
  have hv : (Value.array [.int 1, .nat 2, .object [("a", .nat 3)]]).Literal :=
    .array (by simp [hint, hnat, hobject])
  have hsame : (Value.array [.int 1, .nat 2, .object [("a", .nat 3)]]).same
      (.array [.nat 1, .int 2, .object [("a", .int 3)]]) = true := by decide +kernel
  obtain ⟨-, -, -, -, hcompare⟩ := same_equivalence
  exact ⟨hv, hsame, hcompare _ _ _ _ hv hsame⟩

end Expectation.Json
