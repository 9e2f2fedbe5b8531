import Mathlib.Data.List.Forall2
import Mathlib.Data.List.Nodup
import Expectation.Proofs.Json.Tree

/-!
# Members put together from pairs

A reader collects the members of an object as pairs in the order written, and
`ofPairs` puts them in order.  Whatever the pairs, the outcome ascends, holds
nothing else and loses no key.  Ascending members are told by what they hold, so
pairs that ascend already are kept as they are.

## Main results

* `ascending_ofPairs`, `mem_of_mem_ofPairs`: what comes out.
* `mem_insert_iff`: what an insertion replaces.
* `ofPairs_of_ascending`: what is left alone.
* `renamed_ofPairs`: what becomes of pairs with other keys.
-/

namespace Expectation.Json

variable {α : Type}

/-! ## What comes out -/

theorem mem_of_mem_insert {key : String} {value : α} {members : List (String × α)}
    {p : String × α} (h : p ∈ insert key value members) : p = (key, value) ∨ p ∈ members := by
  induction members with
  | nil => exact .inl (List.mem_singleton.mp h)
  | cons member ms ih =>
      obtain ⟨k, v⟩ := member
      unfold insert at h
      split at h
      · exact List.mem_cons.mp h
      · split at h
        · rcases List.mem_cons.mp h with h | h
          · exact .inl h
          · exact .inr (List.mem_cons_of_mem _ h)
        · rcases List.mem_cons.mp h with h | h
          · exact .inr (h ▸ List.mem_cons_self)
          · rcases ih h with h | h
            · exact .inl h
            · exact .inr (List.mem_cons_of_mem _ h)

/-- An insertion keeps the order. -/
theorem ascending_insert (key : String) (value : α) {members : List (String × α)}
    (h : Ascending members) : Ascending (insert key value members) := by
  induction members with
  | nil => exact List.pairwise_singleton _ _
  | cons member ms ih =>
      obtain ⟨k, v⟩ := member
      obtain ⟨hhead, htail⟩ := List.pairwise_cons.mp h
      unfold insert
      split
      · next hlt =>
          refine List.pairwise_cons.mpr ⟨fun p hp => ?_, h⟩
          rcases List.mem_cons.mp hp with rfl | hp
          · exact hlt
          · exact String.lt_trans hlt (hhead p hp)
      · next hnot =>
          split
          · next heq =>
              subst heq
              exact List.pairwise_cons.mpr ⟨hhead, htail⟩
          · next hne =>
              have hlt : k < key := Std.lt_of_le_of_ne (String.not_lt.mp hnot) hne
              refine List.pairwise_cons.mpr ⟨fun p hp => ?_, ih htail⟩
              rcases mem_of_mem_insert hp with rfl | hp
              · exact hlt
              · exact hhead p hp

/-- Collecting pairs on top of ascending members gives ascending members. -/
theorem ascending_foldl_insert (pairs : List (String × α)) {members : List (String × α)}
    (h : Ascending members) :
    Ascending (pairs.foldl (fun ms p => insert p.1 p.2 ms) members) := by
  induction pairs generalizing members with
  | nil => exact h
  | cons p pairs ih => exact ih (ascending_insert p.1 p.2 h)

theorem ascending_ofPairs (pairs : List (String × α)) : Ascending (ofPairs pairs) :=
  ascending_foldl_insert pairs List.Pairwise.nil

theorem mem_of_mem_foldl_insert {pairs members : List (String × α)} {p : String × α}
    (h : p ∈ pairs.foldl (fun ms p => insert p.1 p.2 ms) members) :
    p ∈ pairs ∨ p ∈ members := by
  induction pairs generalizing members with
  | nil => exact .inr h
  | cons q pairs ih =>
      rcases ih h with h | h
      · exact .inl (List.mem_cons_of_mem q h)
      · rcases mem_of_mem_insert h with rfl | h
        · exact .inl List.mem_cons_self
        · exact .inr h

/-- Only what was collected comes out. -/
theorem mem_of_mem_ofPairs {pairs : List (String × α)} {p : String × α} (h : p ∈ ofPairs pairs) :
    p ∈ pairs :=
  (mem_of_mem_foldl_insert h).resolve_right List.not_mem_nil

/-! ## Which pairs come out -/

/-- An insertion into ascending members replaces what was there before. -/
theorem mem_insert_iff {key : String} {value : α} {members : List (String × α)}
    (h : Ascending members) {p : String × α} :
    p ∈ insert key value members ↔ p = (key, value) ∨ p.1 ≠ key ∧ p ∈ members := by
  induction members with
  | nil => simp [insert]
  | cons member ms ih =>
      obtain ⟨k, v⟩ := member
      obtain ⟨hhead, htail⟩ := List.pairwise_cons.mp h
      have hbelow : ∀ q ∈ ms, k < q.1 := fun q hq => hhead q hq
      unfold insert
      split
      · next hlt =>
          have hne : ∀ q ∈ (k, v) :: ms, q.1 ≠ key := by
            rintro q hq rfl
            rcases List.mem_cons.mp hq with rfl | hq
            · exact String.lt_irrefl _ hlt
            · exact String.lt_irrefl _ (String.lt_trans hlt (hbelow q hq))
          rw [List.mem_cons]
          exact or_congr_right ⟨fun hp => ⟨hne p hp, hp⟩, fun hp => hp.2⟩
      · split
        · next heq =>
            subst heq
            have hne : ∀ q ∈ ms, q.1 ≠ k := by
              rintro q hq rfl
              exact String.lt_irrefl _ (hbelow q hq)
            rw [List.mem_cons, List.mem_cons]
            refine or_congr_right ⟨fun hp => ⟨hne p hp, .inr hp⟩, ?_⟩
            rintro ⟨hp, rfl | hmem⟩
            · exact absurd rfl hp
            · exact hmem
        · next hne =>
            rw [List.mem_cons, List.mem_cons, ih htail]
            constructor
            · rintro (rfl | rfl | ⟨hp, hmem⟩)
              · exact .inr ⟨hne, .inl rfl⟩
              · exact .inl rfl
              · exact .inr ⟨hp, .inr hmem⟩
            · rintro (rfl | ⟨hp, rfl | hmem⟩)
              · exact .inr (.inl rfl)
              · exact .inl rfl
              · exact .inr (.inr ⟨hp, hmem⟩)

theorem exists_mem_foldl_insert {pairs members : List (String × α)} {key : String}
    (hasc : Ascending members)
    (h : (∃ v, (key, v) ∈ pairs) ∨ ∃ v, (key, v) ∈ members) :
    ∃ v, (key, v) ∈ pairs.foldl (fun ms p => insert p.1 p.2 ms) members := by
  induction pairs generalizing members with
  | nil => exact h.resolve_left fun ⟨_, hv⟩ => List.not_mem_nil hv
  | cons p pairs ih =>
      refine ih (ascending_insert p.1 p.2 hasc) ?_
      by_cases hkey : key = p.1
      · exact .inr ⟨p.2, (mem_insert_iff hasc).mpr (.inl (by rw [hkey]))⟩
      · rcases h with ⟨v, hv⟩ | ⟨v, hv⟩
        · refine .inl ⟨v, (List.mem_cons.mp hv).resolve_left ?_⟩
          rintro rfl
          exact hkey rfl
        · exact .inr ⟨v, (mem_insert_iff hasc).mpr (.inr ⟨hkey, hv⟩)⟩

/-- No key is lost. -/
theorem exists_mem_ofPairs {pairs : List (String × α)} {key : String} {v : α}
    (h : (key, v) ∈ pairs) : ∃ w, (key, w) ∈ ofPairs pairs :=
  exists_mem_foldl_insert List.Pairwise.nil (.inl ⟨v, h⟩)

/-- Ascending members are told by what they hold. -/
theorem eq_of_mem_iff {members others : List (String × α)} (h : Ascending members)
    (h' : Ascending others) (hmem : ∀ p, p ∈ members ↔ p ∈ others) : members = others := by
  have hnodup : ∀ {ms : List (String × α)}, Ascending ms → ms.Nodup :=
    fun hasc => List.Nodup.of_map Prod.fst (keys_nodup_of_ascending hasc)
  refine List.Perm.eq_of_pairwise (fun a b _ _ hab hba => ?_) h h'
    ((List.perm_ext_iff_of_nodup (hnodup h) (hnodup h')).mpr hmem)
  exact absurd (String.lt_trans hab hba) (String.lt_irrefl _)

/-- Pairs that hold what ascending members hold are put together to these. -/
theorem ofPairs_eq_of_mem_iff {pairs members : List (String × α)} (h : Ascending members)
    (hmem : ∀ p, p ∈ pairs ↔ p ∈ members) : ofPairs pairs = members := by
  refine eq_of_mem_iff (ascending_ofPairs pairs) h fun p => ?_
  refine ⟨fun hp => (hmem p).mp (mem_of_mem_ofPairs hp), fun hp => ?_⟩
  obtain ⟨key, v⟩ := p
  obtain ⟨w, hw⟩ := exists_mem_ofPairs ((hmem _).mpr hp)
  have hfound := lookup_eq_some_of_mem h ((hmem _).mp (mem_of_mem_ofPairs hw))
  rw [lookup_eq_some_of_mem h hp] at hfound
  exact Option.some.inj hfound ▸ hw

/-- **Ascending members are kept as they are.** -/
theorem ofPairs_of_ascending {members : List (String × α)} (h : Ascending members) :
    ofPairs members = members :=
  ofPairs_eq_of_mem_iff h fun _ => Iff.rfl

/-- **Pairs with different keys** are put in order and otherwise kept. -/
theorem perm_ofPairs {pairs : List (String × α)} (h : (pairs.map Prod.fst).Nodup) :
    (ofPairs pairs).Perm pairs := by
  have hnodup : (ofPairs pairs).Nodup :=
    List.Nodup.of_map Prod.fst (keys_nodup_of_ascending (ascending_ofPairs pairs))
  refine (List.perm_ext_iff_of_nodup hnodup (List.Nodup.of_map Prod.fst h)).mpr fun p => ?_
  refine ⟨mem_of_mem_ofPairs, fun hp => ?_⟩
  obtain ⟨w, hw⟩ := exists_mem_ofPairs hp
  rwa [List.inj_on_of_nodup_map h hp (mem_of_mem_ofPairs hw) rfl]

/-! ## Other values -/

theorem insert_map {β : Type} (f : α → β) (key : String) (v : α) (ms : List (String × α)) :
    insert key (f v) (ms.map fun (k, w) => (k, f w)) =
      (insert key v ms).map fun (k, w) => (k, f w) := by
  induction ms with
  | nil => rfl
  | cons m ms ih =>
      obtain ⟨k, w⟩ := m
      simp only [insert, List.map_cons]
      split
      · rfl
      split
      · rfl
      · rw [List.map_cons, ih]

/-- Values are put in order whatever they are. -/
theorem ofPairs_map {β : Type} (f : α → β) (pairs : List (String × α)) :
    ofPairs (pairs.map fun (k, v) => (k, f v)) = (ofPairs pairs).map fun (k, v) => (k, f v) := by
  have hfold : ∀ ms : List (String × α),
      (pairs.map fun (k, v) => (k, f v)).foldl (fun ms p => insert p.1 p.2 ms)
        (ms.map fun (k, v) => (k, f v)) =
      (pairs.foldl (fun ms p => insert p.1 p.2 ms) ms).map fun (k, v) => (k, f v) := by
    induction pairs with
    | nil => exact fun _ => rfl
    | cons p pairs ih =>
        obtain ⟨k, v⟩ := p
        intro ms
        rw [List.map_cons, List.foldl_cons, List.foldl_cons]
        simp only [insert_map]
        exact ih _
  exact hfold []

/-! ## Renamed keys -/

/-- Members whose keys come of the keys of others, and whose values are related to theirs. -/
structure Renamed {β : Type} (f : String → String) (V : α → β → Prop)
    (members : List (String × α)) (others : List (String × β)) : Prop where
  forth : ∀ b ∈ others, ∃ a ∈ members, f b.1 = a.1 ∧ V a.2 b.2
  back : ∀ a ∈ members, ∃ b ∈ others, f b.1 = a.1 ∧ V a.2 b.2

section Renamed

variable {β : Type} {f : String → String} {V : α → β → Prop}

theorem Renamed.insert {members : List (String × α)} {others : List (String × β)}
    (h : Renamed f V members others) (hmembers : Ascending members) (hothers : Ascending others)
    {key : String} {v : α} {w : β} (hvw : V v w)
    (hkey : ∀ b ∈ others, f b.1 = f key → b.1 = key) :
    Renamed f V (insert (f key) v members) (insert key w others) := by
  constructor
  · intro b hb
    rcases (mem_insert_iff hothers).mp hb with rfl | ⟨hne, hb⟩
    · exact ⟨(f key, v), (mem_insert_iff hmembers).mpr (.inl rfl), rfl, hvw⟩
    · obtain ⟨a, ha, hab, hV⟩ := h.forth b hb
      have hne' : a.1 ≠ f key := fun heq => hne (hkey b hb (hab.trans heq))
      exact ⟨a, (mem_insert_iff hmembers).mpr (.inr ⟨hne', ha⟩), hab, hV⟩
  · intro a ha
    rcases (mem_insert_iff hmembers).mp ha with rfl | ⟨hne, ha⟩
    · exact ⟨(key, w), (mem_insert_iff hothers).mpr (.inl rfl), rfl, hvw⟩
    · obtain ⟨b, hb, hab, hV⟩ := h.back a ha
      have hne' : b.1 ≠ key := fun heq => hne (hab.symm.trans (congrArg f heq))
      exact ⟨b, (mem_insert_iff hothers).mpr (.inr ⟨hne', hb⟩), hab, hV⟩

/-- **Pairs with renamed keys** are put together like the pairs, if no two keys get one name. -/
theorem renamed_ofPairs {pairs : List (String × α)} {others : List (String × β)}
    (h : List.Forall₂ (fun a b => f b.1 = a.1 ∧ V a.2 b.2) pairs others)
    (hf : ∀ a ∈ others, ∀ b ∈ others, f a.1 = f b.1 → a.1 = b.1) :
    Renamed f V (ofPairs pairs) (ofPairs others) := by
  have hfold : ∀ (ms : List (String × α)) (ns : List (String × β)), Ascending ms → Ascending ns →
      Renamed f V ms ns → (∀ a ∈ others, ∀ b ∈ ns, f b.1 = f a.1 → b.1 = a.1) →
      Renamed f V (pairs.foldl (fun ms p => insert p.1 p.2 ms) ms)
        (others.foldl (fun ms p => insert p.1 p.2 ms) ns) := by
    induction h with
    | nil => exact fun ms ns _ _ hrenamed _ => hrenamed
    | @cons a b pairs others hab h ih =>
        intro ms ns hms hns hrenamed hkeys
        obtain ⟨x, v⟩ := a
        obtain ⟨key, w⟩ := b
        obtain ⟨hkey, hvw⟩ := hab
        dsimp only at hkey hvw
        subst hkey
        refine ih (fun a ha b hb => hf a (List.mem_cons_of_mem _ ha) b (List.mem_cons_of_mem _ hb))
          _ _ (ascending_insert _ v hms) (ascending_insert key w hns)
          (hrenamed.insert hms hns hvw fun b hb => hkeys _ List.mem_cons_self b hb) ?_
        intro a ha b hb heq
        rcases (mem_insert_iff hns).mp hb with rfl | ⟨-, hb⟩
        · exact hf _ List.mem_cons_self a (List.mem_cons_of_mem _ ha) heq
        · exact hkeys a (List.mem_cons_of_mem _ ha) b hb heq
  exact hfold [] [] List.Pairwise.nil List.Pairwise.nil
    ⟨fun b hb => absurd hb List.not_mem_nil, fun a ha => absurd ha List.not_mem_nil⟩
    fun a _ b hb => absurd hb List.not_mem_nil

end Renamed

end Expectation.Json
