import Expectation.Pairing
import Mathlib.Data.List.Perm.Basic
import Mathlib.Data.List.ReduceOption

/-!
# What first fit finds

Every actual element is claimed once or left over.  If the elements match one to one in
the order given, each claims its own partner, since that is the first one left.  If first
fit succeeds, the claimed elements are the actual ones in some order.

## Main results

* `perm_assign`: every entry is claimed once or left over.
* `unmatched_eq_nil_of_forall₂`: elements that match in the order given.
* `exists_perm_of_unmatched_eq_nil`: success means a match in some order.
* `unmatched_map`: what is left without a match depends on the matches only.
-/

namespace Expectation.Pairing

variable {α β γ δ : Type} {test : β → Bool} {matches' : α → β → Bool}

/-! ## A single claim -/

/-- What is claimed passes the test, nothing before it does, and it is taken out of the
entries. -/
theorem exists_split_of_claim {free left : List (Nat × β)} {j : Nat}
    (h : claim test free = some (j, left)) :
    ∃ before b after, free = before ++ (j, b) :: after ∧ left = before ++ after ∧
      test b = true ∧ ∀ entry ∈ before, test entry.2 = false := by
  induction free generalizing left with
  | nil => exact absurd h (by simp [claim])
  | cons entry free ih =>
      obtain ⟨k, c⟩ := entry
      by_cases hc : test c = true
      · simp only [claim, if_pos hc, Option.some.injEq, Prod.mk.injEq] at h
        obtain ⟨rfl, rfl⟩ := h
        exact ⟨[], c, free, rfl, rfl, hc, fun _ hmem => absurd hmem List.not_mem_nil⟩
      · simp only [claim, if_neg hc, Option.map_eq_some_iff] at h
        obtain ⟨⟨i, rest⟩, hrest, heq⟩ := h
        cases heq
        obtain ⟨before, b, after, rfl, rfl, hb, hbefore⟩ := ih hrest
        exact ⟨(k, c) :: before, b, after, rfl, rfl, hb,
          List.forall_mem_cons.mpr ⟨Bool.eq_false_iff.mpr hc, hbefore⟩⟩

/-- What is claimed passes the test and is taken out of the entries. -/
theorem claim_eq_some {free left : List (Nat × β)} {j : Nat}
    (h : claim test free = some (j, left)) :
    ∃ b, test b = true ∧ ((j, b) :: left).Perm free := by
  obtain ⟨before, b, after, rfl, rfl, hb, -⟩ := exists_split_of_claim h
  exact ⟨b, hb, List.perm_middle.symm⟩

/-- What is left keeps its order. -/
theorem sublist_of_claim {free left : List (Nat × β)} {j : Nat}
    (h : claim test free = some (j, left)) : left.Sublist free := by
  obtain ⟨before, b, after, rfl, rfl, -⟩ := exists_split_of_claim h
  exact (List.Sublist.refl before).append (List.sublist_cons_self _ after)

/-- Something is claimed if there is anything to claim. -/
theorem exists_claim {free : List (Nat × β)} {entry : Nat × β} (hmem : entry ∈ free)
    (htest : test entry.2 = true) : ∃ j left, claim test free = some (j, left) := by
  induction free with
  | nil => exact absurd hmem List.not_mem_nil
  | cons first free ih =>
      obtain ⟨k, c⟩ := first
      by_cases hc : test c = true
      · exact ⟨k, free, by simp [claim, hc]⟩
      · have hfree : entry ∈ free := by
          rcases List.mem_cons.mp hmem with rfl | hfree
          · exact absurd htest hc
          · exact hfree
        obtain ⟨j, left, hclaim⟩ := ih hfree
        exact ⟨j, (k, c) :: left, by simp [claim, hc, hclaim]⟩

/-! ## A run of claims -/

theorem assign_cons_of_claim {a : α} {as : List α} {free left : List (Nat × β)} {j : Nat}
    (h : claim (matches' a) free = some (j, left)) :
    assign matches' (a :: as) free =
      (some j :: (assign matches' as left).1, (assign matches' as left).2) := by
  simp [assign, h]

theorem assign_cons_of_no_claim {a : α} {as : List α} {free : List (Nat × β)}
    (h : claim (matches' a) free = none) :
    assign matches' (a :: as) free =
      (none :: (assign matches' as free).1, (assign matches' as free).2) := by
  simp [assign, h]

/-- Every entry is claimed once or left over. -/
theorem perm_assign (as : List α) (free : List (Nat × β)) :
    ((assign matches' as free).1.reduceOption ++
      (assign matches' as free).2.map Prod.fst).Perm (free.map Prod.fst) := by
  induction as generalizing free with
  | nil => exact List.Perm.refl _
  | cons a as ih =>
      cases hclaim : claim (matches' a) free with
      | none =>
          rw [assign_cons_of_no_claim hclaim]
          exact ih free
      | some claimed =>
          obtain ⟨j, left⟩ := claimed
          obtain ⟨b, -, hperm⟩ := claim_eq_some hclaim
          rw [assign_cons_of_claim hclaim]
          exact ((ih left).cons j).trans (hperm.map Prod.fst)

/-- What is left over keeps its order. -/
theorem sublist_assign (as : List α) (free : List (Nat × β)) :
    (assign matches' as free).2.Sublist free := by
  induction as generalizing free with
  | nil => exact List.Sublist.refl free
  | cons a as ih =>
      cases hclaim : claim (matches' a) free with
      | none =>
          rw [assign_cons_of_no_claim hclaim]
          exact ih free
      | some claimed =>
          rw [assign_cons_of_claim hclaim]
          exact (ih _).trans (sublist_of_claim hclaim)

/-- Every expected element has claimed an actual one. -/
def Complete (claims : List (Option Nat)) : Prop := ∀ c ∈ claims, c.isSome = true

/-- After a claim it remains to see whether the others succeed. -/
theorem complete_assign_cons {a : α} {as : List α} {free left : List (Nat × β)} {j : Nat}
    (h : claim (matches' a) free = some (j, left)) :
    Complete (assign matches' (a :: as) free).1 ↔ Complete (assign matches' as left).1 := by
  rw [assign_cons_of_claim h]
  simp [Complete]

/-- Without a claim the run has failed. -/
theorem not_complete_assign_cons {a : α} {as : List α} {free : List (Nat × β)}
    (h : claim (matches' a) free = none) :
    ¬ Complete (assign matches' (a :: as) free).1 := by
  intro hall
  have hfirst := hall none (by simp [assign_cons_of_no_claim h])
  exact absurd hfirst (by simp)

/-- Elements that match the entries in the order given claim them. -/
theorem complete_assign_of_forall₂ {as : List α} {free : List (Nat × β)}
    (h : List.Forall₂ (fun a entry => matches' a entry.2 = true) as free) :
    Complete (assign matches' as free).1 := by
  induction h with
  | nil => exact fun c hc => absurd hc List.not_mem_nil
  | @cons a entry as free hmatch _ ih =>
      have hclaim : claim (matches' a) (entry :: free) = some (entry.1, free) := by
        simp [claim, hmatch]
      exact (complete_assign_cons hclaim).mpr ih

/-- A run that succeeds matches the elements with entries in some order; the
entries that nobody claimed are left over. -/
theorem exists_perm_of_complete {as : List α} {free : List (Nat × β)}
    (h : Complete (assign matches' as free).1) :
    ∃ taken, List.Forall₂ (fun a entry => matches' a entry.2 = true) as taken ∧
      (taken ++ (assign matches' as free).2).Perm free := by
  induction as generalizing free with
  | nil => exact ⟨[], .nil, List.Perm.refl _⟩
  | cons a as ih =>
      cases hclaim : claim (matches' a) free with
      | none => exact absurd h (not_complete_assign_cons hclaim)
      | some claimed =>
          obtain ⟨j, left⟩ := claimed
          obtain ⟨b, hb, hperm⟩ := claim_eq_some hclaim
          obtain ⟨taken, hmatch, htaken⟩ := ih ((complete_assign_cons hclaim).mp h)
          refine ⟨(j, b) :: taken, .cons hb hmatch, ?_⟩
          rw [assign_cons_of_claim hclaim]
          exact (htaken.cons (j, b)).trans hperm

/-! ## Elements without a match -/

theorem unclaimed_eq_nil_iff (i : Nat) (claims : List (Option Nat)) :
    unclaimed i claims = [] ↔ Complete claims := by
  induction claims generalizing i with
  | nil => simp [unclaimed, Complete]
  | cons c claims ih =>
      cases c with
      | none => simp [unclaimed, Complete]
      | some j =>
          rw [unclaimed, ih]
          simp [Complete]

theorem zipLeft_eq_nil_iff (is js : List Nat) : zipLeft is js = [] ↔ is = [] := by
  cases is with
  | nil => simp [zipLeft]
  | cons i is => cases js <;> simp [zipLeft]

/-- Nobody is without a match exactly when everybody has claimed something. -/
theorem unmatched_eq_nil_iff (as : List α) (bs : List β) :
    unmatched matches' as bs = [] ↔ Complete (assign matches' as (indexed bs)).1 := by
  unfold unmatched
  rw [zipLeft_eq_nil_iff, unclaimed_eq_nil_iff]

@[simp] theorem length_indexed (bs : List β) : (indexed bs).length = bs.length :=
  List.length_mapIdx

@[simp] theorem map_snd_indexed (bs : List β) : (indexed bs).map Prod.snd = bs :=
  List.ext_getElem (by simp) (by simp [indexed])

/-- A relation to elements is a relation to their entries. -/
theorem forall₂_indexed_iff {R : α → β → Prop} {as : List α} {bs : List β} :
    List.Forall₂ (fun a entry => R a entry.2) as (indexed bs) ↔ List.Forall₂ R as bs := by
  rw [← List.forall₂_map_right_iff, map_snd_indexed]

/-- Elements that match in the order given all find a match. -/
theorem unmatched_eq_nil_of_forall₂ {as : List α} {bs : List β}
    (h : List.Forall₂ (fun a b => matches' a b = true) as bs) :
    unmatched matches' as bs = [] :=
  (unmatched_eq_nil_iff as bs).mpr (complete_assign_of_forall₂ (forall₂_indexed_iff.mpr h))

/-- **Success means a match in some order.**  If nobody is without a match among
as many elements, the actual elements match one to one in some order. -/
theorem exists_perm_of_unmatched_eq_nil {as : List α} {bs : List β}
    (hlength : as.length = bs.length) (h : unmatched matches' as bs = []) :
    ∃ cs, cs.Perm bs ∧ List.Forall₂ (fun a c => matches' a c = true) as cs := by
  obtain ⟨taken, hmatch, hperm⟩ := exists_perm_of_complete ((unmatched_eq_nil_iff as bs).mp h)
  have hnone : (assign matches' as (indexed bs)).2 = [] := by
    have htaken := hmatch.length_eq
    have hall := hperm.length_eq
    rw [List.length_append, length_indexed] at hall
    exact List.eq_nil_of_length_eq_zero (by omega)
  rw [hnone, List.append_nil] at hperm
  refine ⟨taken.map Prod.snd, ?_, List.forall₂_map_right_iff.mpr hmatch⟩
  simpa using hperm.map Prod.snd

/-! ## Other elements in the same places -/

/-- What is claimed depends on what the test says about the entries only. -/
theorem claim_map (g : δ → β) (free : List (Nat × δ)) :
    claim test (free.map (Prod.map id g)) =
      (claim (fun d => test (g d)) free).map (Prod.map id (List.map (Prod.map id g))) := by
  induction free with
  | nil => rfl
  | cons entry free ih =>
      obtain ⟨j, d⟩ := entry
      by_cases hd : test (g d) = true
      · simp [claim, hd]
      · simp [claim, hd, ih, Option.map_map, Function.comp_def]

theorem assign_map (f : γ → α) (g : δ → β) (cs : List γ) (free : List (Nat × δ)) :
    assign matches' (cs.map f) (free.map (Prod.map id g)) =
      Prod.map id (List.map (Prod.map id g))
        (assign (fun c d => matches' (f c) (g d)) cs free) := by
  induction cs generalizing free with
  | nil => rfl
  | cons c cs ih =>
      simp only [List.map_cons, assign, claim_map]
      cases claim (fun d => matches' (f c) (g d)) free with
      | none => simp [ih]
      | some claimed => simp [ih]

theorem indexed_map (g : δ → β) (ds : List δ) :
    indexed (ds.map g) = (indexed ds).map (Prod.map id g) :=
  List.ext_getElem (by simp) (by simp [indexed])

/-- **First fit goes by matches.**  Putting other elements in the places of the old
ones changes nothing as long as they match alike. -/
theorem unmatched_map (f : γ → α) (g : δ → β) (cs : List γ) (ds : List δ) :
    unmatched matches' (cs.map f) (ds.map g) =
      unmatched (fun c d => matches' (f c) (g d)) cs ds := by
  have hindices : ∀ entries : List (Nat × δ),
      (entries.map (Prod.map id g)).map Prod.fst = entries.map Prod.fst := by
    intro entries
    simp [Function.comp_def]
  simp only [unmatched, indexed_map, assign_map, Prod.map_fst, Prod.map_snd, id_eq, hindices]

end Expectation.Pairing
