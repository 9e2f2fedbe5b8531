import Expectation.Json.Expected
import Expectation.Proofs.Json.Legibility
import Expectation.Proofs.Json.Members
import Expectation.Proofs.Json.Scalars

/-!
# Putting matchers in place of sentinels

A tree whose matchers have been replaced by sentinels branches like the tree it
came from, and resolving the sentinels gives that tree back.  The expressions
collected on the way may be followed by others: a sentinel names a place in the
list, and what comes later does not move it.

## Main results

* `shaped_withSentinels`: the tree with sentinels can be written and read back.
* `resolve_withSentinels`: resolving its sentinels gives the tree.
-/

namespace Expectation.Json

open Placeholder

/-! ## The tree with sentinels -/

theorem withSentinels_of_isLeaf {v : Value} (hleaf : v.isLeaf = true) (h : v.Writable)
    (collected : List String) :
    ∃ w, (withSentinels collected v).1 = w ∧ w.isLeaf = true ∧ w.Readable := by
  cases v with
  | float x => exact absurd h id
  | nat n => exact ⟨_, rfl, rfl, h⟩
  | array _ | object _ => exact absurd hleaf (by simp)
  | _ => exact ⟨_, rfl, rfl, trivial⟩

theorem forall_mem_itemsWithSentinels {p : Value → Prop} {vs : List Value}
    (h : ∀ v ∈ vs, ∀ collected, p (withSentinels collected v).1) (collected : List String) :
    ∀ w ∈ (itemsWithSentinels collected vs).1, p w := by
  induction vs generalizing collected with
  | nil => exact fun w hw => absurd hw List.not_mem_nil
  | cons v vs ih =>
      intro w hw
      rcases List.mem_cons.mp hw with rfl | hw
      · exact h v List.mem_cons_self collected
      · exact ih (fun u hu => h u (List.mem_cons_of_mem v hu)) _ w hw

theorem forall_mem_membersWithSentinels {p : Value → Prop} {ms : List (String × Value)}
    (h : ∀ k v, (k, v) ∈ ms → ∀ collected, p (withSentinels collected v).1)
    (collected : List String) :
    ∀ k w, (k, w) ∈ (membersWithSentinels collected ms).1 → p w := by
  induction ms generalizing collected with
  | nil => exact fun k w hw => absurd hw List.not_mem_nil
  | cons member ms ih =>
      obtain ⟨l, v⟩ := member
      intro k w hw
      rcases List.mem_cons.mp hw with heq | hw
      · cases heq
        exact h l v List.mem_cons_self collected
      · exact ih (fun k u hu => h k u (List.mem_cons_of_mem _ hu)) _ k w hw

/-- The keys of an object stay. -/
theorem map_fst_membersWithSentinels (ms : List (String × Value)) (collected : List String) :
    (membersWithSentinels collected ms).1.map Prod.fst = ms.map Prod.fst := by
  induction ms generalizing collected with
  | nil => rfl
  | cons member ms ih =>
      obtain ⟨k, v⟩ := member
      exact congrArg (k :: ·) (ih (withSentinels collected v).2)

/-- **The tree with sentinels** can be written and read back. -/
theorem shaped_withSentinels {n : Nat} {v : Value} (h : Shaped Value.Writable Inert n v)
    (collected : List String) :
    Shaped Value.Readable (fun _ => True) n (withSentinels collected v).1 := by
  induction h generalizing collected with
  | leaf hleaf h =>
      obtain ⟨w, hw, hwleaf, hreadable⟩ := withSentinels_of_isLeaf hleaf h collected
      rw [hw]
      exact .leaf hwleaf hreadable
  | array h ih => exact .array (forall_mem_itemsWithSentinels ih collected)
  | @object n ms hasc hkeys h ih =>
      have hasc' : Ascending (membersWithSentinels collected ms).1 := by
        rw [ascending_iff_map_fst, map_fst_membersWithSentinels]
        exact ascending_iff_map_fst.mp hasc
      exact .object hasc' (fun _ _ _ => trivial) (forall_mem_membersWithSentinels ih collected)

/-! ## Resolving -/

theorem prefix_itemsWithSentinels (vs : List Value) (collected : List String) :
    collected <+: (itemsWithSentinels collected vs).2 := by
  have hspells : Spells collected (itemSegments 0 ',' vs) _ _ :=
    spells_itemSegments (fun v _ collected => spells_segments collected 0 v) collected ','
  exact ⟨_, hspells.collected.symm⟩

theorem prefix_membersWithSentinels (ms : List (String × Value)) (collected : List String) :
    collected <+: (membersWithSentinels collected ms).2 := by
  have hspells : Spells collected (memberSegments 0 ',' ms) _ _ :=
    spells_memberSegments (fun _ v _ collected => spells_segments collected 0 v) collected ','
  exact ⟨_, hspells.collected.symm⟩

section Resolve

variable {s : Substitution}

/-- A sentinel is resolved to the matcher whose expression is at its place. -/
theorem resolve_sentinel {m : Matcher} (harg : m.HasArgument) (h : m.Quiet)
    {collected : List String} (hbegin : collected ++ [m.expression] <+: s.expressions) :
    resolve s (.string (String.ofList (sentinel collected.length))) = .ok (.matcher m) := by
  obtain ⟨rest, hrest⟩ := hbegin
  have hplace : s.expressions[collected.length]? = some m.expression := by
    rw [← hrest]
    simp
  have hlt : collected.length < s.expressions.length := by
    rw [← hrest]
    simp
  have hmatcher : s.matcher collected.length = .ok m := by
    simp only [Substitution.matcher, hplace, Matcher.ofExpression_expression harg h.backtickFree]
  simp only [resolve, Substitution.whole?_sentinel hlt, hmatcher]
  rfl

theorem resolve_leaf {v : Value} (hleaf : v.isLeaf = true) (h : v.Writable)
    {collected : List String} (hbegin : (withSentinels collected v).2 <+: s.expressions) :
    resolve s (withSentinels collected v).1 = .ok v := by
  cases v with
  | string text =>
      show resolve s (.string text) = _
      rw [resolve, s.whole?_of_lacks h.front, s.restore_of_lacks h.front]
  | matcher m => exact resolve_sentinel h.1 h.2 hbegin
  | array _ | object _ => exact absurd hleaf (by simp)
  | _ => rfl

theorem resolveItems_withSentinels {vs : List Value}
    (h : ∀ v ∈ vs, ∀ collected, (withSentinels collected v).2 <+: s.expressions →
      resolve s (withSentinels collected v).1 = .ok v)
    (collected : List String) (hbegin : (itemsWithSentinels collected vs).2 <+: s.expressions) :
    resolveItems s (itemsWithSentinels collected vs).1 = .ok vs := by
  induction vs generalizing collected with
  | nil => rfl
  | cons v vs ih =>
      have hfirst := (prefix_itemsWithSentinels vs (withSentinels collected v).2).trans hbegin
      have hv := h v List.mem_cons_self collected hfirst
      have hvs := ih (fun w hw => h w (List.mem_cons_of_mem v hw)) _ hbegin
      simp only [itemsWithSentinels, resolveItems, hv, hvs]
      rfl

theorem resolveMembers_withSentinels {ms : List (String × Value)}
    (hkeys : ∀ k v, (k, v) ∈ ms → Inert k)
    (h : ∀ k v, (k, v) ∈ ms → ∀ collected, (withSentinels collected v).2 <+: s.expressions →
      resolve s (withSentinels collected v).1 = .ok v)
    (collected : List String)
    (hbegin : (membersWithSentinels collected ms).2 <+: s.expressions) :
    resolveMembers s (membersWithSentinels collected ms).1 = .ok ms := by
  induction ms generalizing collected with
  | nil => rfl
  | cons member ms ih =>
      obtain ⟨k, v⟩ := member
      have hfirst := (prefix_membersWithSentinels ms (withSentinels collected v).2).trans hbegin
      have hv := h k v List.mem_cons_self collected hfirst
      have hms := ih (fun l w hw => hkeys l w (List.mem_cons_of_mem _ hw))
        (fun l w hw => h l w (List.mem_cons_of_mem _ hw)) _ hbegin
      have hkey := s.restore_of_lacks (hkeys k v List.mem_cons_self).front
      simp only [membersWithSentinels, resolveMembers, hv, hms, hkey]
      rfl

/-- **Resolving the sentinels gives the tree back.** -/
theorem resolve_withSentinels {n : Nat} {v : Value} (h : Shaped Value.Writable Inert n v)
    (collected : List String) (hbegin : (withSentinels collected v).2 <+: s.expressions) :
    resolve s (withSentinels collected v).1 = .ok v := by
  induction h generalizing collected with
  | leaf hleaf h => exact resolve_leaf hleaf h hbegin
  | @array n vs h ih =>
      have hvs := resolveItems_withSentinels ih collected hbegin
      simp only [withSentinels, resolve, hvs]
      rfl
  | @object n ms hasc hkeys h ih =>
      have hms := resolveMembers_withSentinels hkeys ih collected hbegin
      simp only [withSentinels, resolve, hms]
      exact congrArg (fun ms => Except.ok (Value.object ms)) (ofPairs_of_ascending hasc)

end Resolve

end Expectation.Json
