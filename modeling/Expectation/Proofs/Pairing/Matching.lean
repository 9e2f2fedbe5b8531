import Expectation.Proofs.Pairing
import Mathlib.Combinatorics.Enumerative.DoubleCounting
import Mathlib.Order.Bounds.Defs

/-!
# First fit as a matching

What first fit claims is a matching of the two collections by their indices: partners
match, and no actual element has two.  It is a matching of a particular kind.  An element
passes over an actual element that it matches only where an earlier element has claimed
that one, so nothing is left over on both sides that would match, and each claim is the
first one possible.  A report lists the indices without a claim in order, and next to
them those that nobody claimed, in order.

Where matches zigzag the elements fall into classes, and everything in a class matches
everything in it.  A matching to which nothing can be added uses up one side of every
class, so it leaves out as few elements as any matching can.

## Main results

* `unmatched_firstFit`: what first fit claims and what is reported.
* `Matching.leftOut_le`: where matches zigzag, a matching without room for more is a
  largest one.
* `unmatched_isLeast`: so first fit leaves as few elements without a match as possible.
* `unmatched_eq_nil_of_perm`: and none, if some order of the elements matches one to one.
-/

namespace Expectation.Pairing

variable {α β : Type} {matches' : α → β → Bool} {as : List α} {bs : List β}
  {f g : Nat → Option Nat}

/-! ## Matchings -/

/-- An assignment of expected to actual elements by their indices: partners match, and no
actual element has two. -/
structure Matching (matches' : α → β → Bool) (as : List α) (bs : List β)
    (f : Nat → Option Nat) : Prop where
  /-- Partners match. -/
  sound : ∀ {i j : Nat}, f i = some j →
    ∃ a b, as[i]? = some a ∧ bs[j]? = some b ∧ matches' a b = true
  /-- No actual element has two partners. -/
  injective : ∀ {i i' j : Nat}, f i = some j → f i' = some j → i = i'

/-- Nothing that matches is left over on both sides. -/
def NoRoom (matches' : α → β → Bool) (as : List α) (bs : List β) (f : Nat → Option Nat) :
    Prop :=
  ∀ (i j : Nat) (a : α) (b : β), as[i]? = some a → bs[j]? = some b → f i = none →
    (∀ k, f k ≠ some j) → matches' a b = false

/-- A matching without room for more, in which every element has the first partner that
no earlier one has. -/
structure FirstFit (matches' : α → β → Bool) (as : List α) (bs : List β)
    (f : Nat → Option Nat) : Prop extends Matching matches' as bs f where
  /-- Nothing that matches is left over on both sides. -/
  noRoom : NoRoom matches' as bs f
  /-- An actual element that matches and is passed over has an earlier partner. -/
  first : ∀ {i j k : Nat} {a : α} {b : β}, f i = some j → k < j → as[i]? = some a →
    bs[k]? = some b → matches' a b = true → ∃ i' < i, f i' = some k

/-- What is reported for an assignment: the expected elements without a partner, each
with an actual one that has none, as long as there are any. -/
structure Reports (as : List α) (bs : List β) (f : Nat → Option Nat)
    (pairs : List (Nat × Option Nat)) : Prop where
  /-- The expected elements are listed in order. -/
  expected_lt : (pairs.map Prod.fst).Pairwise (· < ·)
  /-- They are the ones without a partner. -/
  mem_expected : ∀ i, i ∈ pairs.map Prod.fst ↔ i < as.length ∧ f i = none
  /-- The actual elements are listed in order. -/
  actual_lt : (pairs.filterMap Prod.snd).Pairwise (· < ·)
  /-- They have no partner. -/
  actual_free : ∀ j ∈ pairs.filterMap Prod.snd, j < bs.length ∧ ∀ i, f i ≠ some j
  /-- Among as many on both sides none is missing. -/
  actual_isSome : as.length = bs.length → ∀ pair ∈ pairs, pair.2.isSome = true

/-! ## A run of claims, element by element -/

/-- What is claimed matches. -/
theorem matches_of_claimed {free : List (Nat × β)} {i j : Nat}
    (h : (assign matches' as free).1[i]? = some (some j)) :
    ∃ a b, as[i]? = some a ∧ (j, b) ∈ free ∧ matches' a b = true := by
  induction as generalizing free i with
  | nil => exact absurd h (by simp [assign])
  | cons a as ih =>
      cases hclaim : claim (matches' a) free with
      | none =>
          rw [assign_cons_of_no_claim hclaim] at h
          cases i with
          | zero => exact absurd h (by simp)
          | succ i => exact ih h
      | some claimed =>
          obtain ⟨k, left⟩ := claimed
          obtain ⟨b, hb, hperm⟩ := claim_eq_some hclaim
          rw [assign_cons_of_claim hclaim] at h
          cases i with
          | zero =>
              obtain rfl : k = j := by simpa using h
              exact ⟨a, b, rfl, hperm.subset List.mem_cons_self, hb⟩
          | succ i =>
              obtain ⟨a', b', ha', hb', hmatch⟩ := ih h
              exact ⟨a', b', ha', hperm.subset (List.mem_cons_of_mem _ hb'), hmatch⟩

/-- What comes before the claimed entry was refused. -/
theorem refused_of_lt {test : β → Bool} {free left : List (Nat × β)} {j k : Nat} {b : β}
    (hsorted : (free.map Prod.fst).Pairwise (· < ·)) (hclaim : claim test free = some (j, left))
    (hentry : (k, b) ∈ free) (hlt : k < j) : test b = false := by
  obtain ⟨before, d, after, rfl, rfl, -, hbefore⟩ := exists_split_of_claim hclaim
  rw [List.map_append, List.map_cons] at hsorted
  have hafter : ∀ l ∈ after.map Prod.fst, j < l := fun _ hl =>
    List.rel_of_pairwise_cons (List.pairwise_append.mp hsorted).2.1 hl
  rcases List.mem_append.mp hentry with hfront | hback
  · exact hbefore _ hfront
  · rcases List.mem_cons.mp hback with heq | hback
    · exact absurd (Prod.mk.inj heq).1 (Nat.ne_of_lt hlt)
    · exact absurd (hafter k (List.mem_map_of_mem hback)) (Nat.lt_asymm hlt)

/-- **What an element passes over an earlier one has claimed**, be it that it claims
something further on or that it claims nothing at all. -/
theorem exists_earlier_claim {free : List (Nat × β)}
    (hsorted : (free.map Prod.fst).Pairwise (· < ·)) {i k : Nat} {c : Option Nat} {a : α}
    {b : β} (hc : (assign matches' as free).1[i]? = some c) (ha : as[i]? = some a)
    (hentry : (k, b) ∈ free) (hmatch : matches' a b = true) (hover : ∀ j, c = some j → k < j) :
    ∃ i' < i, (assign matches' as free).1[i']? = some (some k) := by
  induction as generalizing free i with
  | nil => exact absurd ha (by simp)
  | cons first as ih =>
      cases hclaim : claim (matches' first) free with
      | none =>
          rw [assign_cons_of_no_claim hclaim] at hc ⊢
          cases i with
          | zero =>
              obtain rfl : first = a := by simpa using ha
              obtain ⟨j, left, hsome⟩ := exists_claim hentry hmatch
              exact absurd (hclaim.symm.trans hsome) (by simp)
          | succ i =>
              obtain ⟨i', hi', hk⟩ := ih hsorted hc ha hentry
              exact ⟨i' + 1, Nat.succ_lt_succ hi', hk⟩
      | some claimed =>
          obtain ⟨j, left⟩ := claimed
          rw [assign_cons_of_claim hclaim] at hc ⊢
          cases i with
          | zero =>
              obtain rfl : first = a := by simpa using ha
              have hrefused := refused_of_lt hsorted hclaim hentry
                (hover j (by simpa using hc.symm))
              exact absurd hmatch (by simp [hrefused])
          | succ i =>
              -- the entry is the one that the first element claims, or it is left for the others
              obtain ⟨d, -, hperm⟩ := claim_eq_some hclaim
              rcases List.mem_cons.mp (hperm.symm.subset hentry) with heq | hleft
              · exact ⟨0, Nat.succ_pos i, by rw [(Prod.mk.inj heq).1]; rfl⟩
              · obtain ⟨i', hi', hk⟩ :=
                  ih (hsorted.sublist ((sublist_of_claim hclaim).map Prod.fst)) hc ha hleft
                exact ⟨i' + 1, Nat.succ_lt_succ hi', hk⟩

/-! ## What first fit claims -/

@[simp] theorem map_fst_indexed (bs : List β) :
    (indexed bs).map Prod.fst = List.range bs.length :=
  List.ext_getElem (by simp) (by simp [indexed])

theorem mem_indexed_iff {j : Nat} {b : β} : (j, b) ∈ indexed bs ↔ bs[j]? = some b := by
  rw [indexed, List.mem_mapIdx, List.getElem?_eq_some_iff]
  constructor
  · rintro ⟨k, hk, heq⟩
    cases heq
    exact ⟨hk, rfl⟩
  · rintro ⟨hj, rfl⟩
    exact ⟨j, hj, rfl⟩

theorem indexed_sorted (bs : List β) : ((indexed bs).map Prod.fst).Pairwise (· < ·) := by
  rw [map_fst_indexed]
  exact List.pairwise_lt_range

/-- The index of the actual element that the expected one at an index claims, if any. -/
def chosen (matches' : α → β → Bool) (as : List α) (bs : List β) (i : Nat) : Option Nat :=
  ((assign matches' as (indexed bs)).1[i]?).join

theorem chosen_eq_some_iff {i j : Nat} : chosen matches' as bs i = some j ↔
    (assign matches' as (indexed bs)).1[i]? = some (some j) :=
  Option.join_eq_some_iff

theorem claims_of_chosen_eq_none {i : Nat} (hi : i < as.length)
    (h : chosen matches' as bs i = none) :
    (assign matches' as (indexed bs)).1[i]? = some none := by
  rw [← length_assign matches' as (indexed bs)] at hi
  rw [chosen, List.getElem?_eq_getElem hi] at h
  rw [List.getElem?_eq_getElem hi, ← h]
  rfl

theorem mem_claims_of_chosen {i j : Nat} (h : chosen matches' as bs i = some j) :
    j ∈ (assign matches' as (indexed bs)).1.reduceOption :=
  List.reduceOption_mem_iff.mpr (List.mem_of_getElem? (chosen_eq_some_iff.mp h))

/-- No index is claimed twice, and none that is claimed is left over. -/
theorem nodup_claims (matches' : α → β → Bool) (as : List α) (bs : List β) :
    ((assign matches' as (indexed bs)).1.reduceOption ++
      (assign matches' as (indexed bs)).2.map Prod.fst).Nodup :=
  (perm_assign as (indexed bs)).nodup_iff.mpr (indexed_sorted bs).nodup

/-- Where no index is claimed twice the index tells who claims it. -/
theorem eq_of_nodup_claims {claims : List (Option Nat)} (hnodup : claims.reduceOption.Nodup)
    {i i' j : Nat} (h : claims[i]? = some (some j)) (h' : claims[i']? = some (some j)) :
    i = i' := by
  have hpairs := List.pairwise_iff_getElem.mp (List.pairwise_filterMap.mp hnodup)
  obtain ⟨hi, hclaim⟩ := List.getElem?_eq_some_iff.mp h
  obtain ⟨hi', hclaim'⟩ := List.getElem?_eq_some_iff.mp h'
  rcases Nat.lt_trichotomy i i' with hlt | heq | hgt
  · exact absurd rfl (hpairs i i' hi hi' hlt j hclaim j hclaim')
  · exact heq
  · exact absurd rfl (hpairs i' i hi' hi hgt j hclaim' j hclaim)

/-- **First fit claims a matching.** -/
theorem chosen_matching (matches' : α → β → Bool) (as : List α) (bs : List β) :
    Matching matches' as bs (chosen matches' as bs) where
  sound := by
    intro i j h
    obtain ⟨a, b, ha, hb, hmatch⟩ := matches_of_claimed (chosen_eq_some_iff.mp h)
    exact ⟨a, b, ha, mem_indexed_iff.mp hb, hmatch⟩
  injective := by
    intro i i' j h h'
    have hnodup := (List.nodup_append.mp (nodup_claims matches' as bs)).1
    exact eq_of_nodup_claims hnodup (chosen_eq_some_iff.mp h) (chosen_eq_some_iff.mp h')

/-- First fit leaves nothing over that matches, and claims what comes first. -/
theorem chosen_firstFit (matches' : α → β → Bool) (as : List α) (bs : List β) :
    FirstFit matches' as bs (chosen matches' as bs) where
  toMatching := chosen_matching matches' as bs
  noRoom := by
    intro i j a b ha hb hnone hfree
    by_contra hmatch
    obtain ⟨hi, -⟩ := List.getElem?_eq_some_iff.mp ha
    obtain ⟨k, -, hk⟩ := exists_earlier_claim (indexed_sorted bs)
      (claims_of_chosen_eq_none hi hnone) ha (mem_indexed_iff.mpr hb)
      (Bool.eq_true_of_not_eq_false hmatch) (fun _ h => absurd h (by simp))
    exact hfree k (chosen_eq_some_iff.mpr hk)
  first := by
    intro i j k a b h hlt ha hb hmatch
    obtain ⟨i', hi', hk⟩ := exists_earlier_claim (indexed_sorted bs)
      (chosen_eq_some_iff.mp h) ha (mem_indexed_iff.mpr hb) hmatch
      (fun _ h => Option.some.inj h ▸ hlt)
    exact ⟨i', hi', chosen_eq_some_iff.mpr hk⟩

/-! ## What is reported -/

theorem mem_unclaimed_iff {i k : Nat} {claims : List (Option Nat)} :
    k ∈ unclaimed i claims ↔ ∃ n, k = i + n ∧ claims[n]? = some none := by
  induction claims generalizing i with
  | nil => simp [unclaimed]
  | cons c claims ih =>
      -- an index further on counts from the next element
      have hlater : k ∈ unclaimed (i + 1) claims ↔
          ∃ n, k = i + (n + 1) ∧ (c :: claims)[n + 1]? = some none := by
        rw [ih]
        simp only [List.getElem?_cons_succ, Nat.add_assoc, Nat.add_comm 1]
      cases c with
      | none =>
          rw [unclaimed, List.mem_cons, hlater]
          constructor
          · rintro (rfl | ⟨n, hn⟩)
            · exact ⟨0, rfl, rfl⟩
            · exact ⟨n + 1, hn⟩
          · rintro ⟨n, hn⟩
            cases n with
            | zero => exact .inl hn.1
            | succ n => exact .inr ⟨n, hn⟩
      | some j =>
          rw [unclaimed, hlater]
          constructor
          · rintro ⟨n, hn⟩
            exact ⟨n + 1, hn⟩
          · rintro ⟨n, hn⟩
            cases n with
            | zero => exact absurd hn.2 (by simp)
            | succ n => exact ⟨n, hn⟩

theorem length_unclaimed (i : Nat) (claims : List (Option Nat)) :
    (unclaimed i claims).length = (claims.filter Option.isNone).length := by
  induction claims generalizing i with
  | nil => rfl
  | cons c claims ih => cases c <;> simp [unclaimed, ih]

theorem unclaimed_sorted (i : Nat) (claims : List (Option Nat)) :
    (unclaimed i claims).Pairwise (· < ·) := by
  induction claims generalizing i with
  | nil => exact .nil
  | cons c claims ih =>
      cases c with
      | some j => exact ih (i + 1)
      | none =>
          refine List.pairwise_cons.mpr ⟨fun k hk => ?_, ih (i + 1)⟩
          obtain ⟨n, rfl, -⟩ := mem_unclaimed_iff.mp hk
          omega

theorem map_fst_zipLeft (is js : List Nat) : (zipLeft is js).map Prod.fst = is := by
  fun_induction zipLeft is js with
  | case1 => rfl
  | case2 i is ih => exact congrArg (i :: ·) ih
  | case3 i is j js ih => exact congrArg (i :: ·) ih

theorem filterMap_snd_zipLeft (is js : List Nat) :
    (zipLeft is js).filterMap Prod.snd = js.take is.length := by
  fun_induction zipLeft is js with
  | case1 => simp
  | case2 i is ih => simpa using ih
  | case3 i is j js ih => simp [ih]

theorem map_fst_unmatched (matches' : α → β → Bool) (as : List α) (bs : List β) :
    (unmatched matches' as bs).map Prod.fst =
      unclaimed 0 (assign matches' as (indexed bs)).1 :=
  map_fst_zipLeft _ _

/-- The actual elements of a report are among those that nobody claimed, in their order. -/
theorem filterMap_snd_unmatched_sublist (matches' : α → β → Bool) (as : List α)
    (bs : List β) : ((unmatched matches' as bs).filterMap Prod.snd).Sublist
      ((assign matches' as (indexed bs)).2.map Prod.fst) := by
  rw [unmatched, filterMap_snd_zipLeft]
  exact List.take_sublist _ _

/-- Among as many on both sides as many are left over on both. -/
theorem length_leftover (hlength : as.length = bs.length) :
    (unclaimed 0 (assign matches' as (indexed bs)).1).length =
      ((assign matches' as (indexed bs)).2.map Prod.fst).length := by
  have hall := (@perm_assign _ _ matches' as (indexed bs)).length_eq
  have hclaims := List.length_eq_reduceOption_length_add_filter_none
    (l := (assign matches' as (indexed bs)).1)
  rw [length_assign] at hclaims
  rw [List.length_append, map_fst_indexed, List.length_range] at hall
  rw [length_unclaimed]
  omega

theorem unmatched_reports (matches' : α → β → Bool) (as : List α) (bs : List β) :
    Reports as bs (chosen matches' as bs) (unmatched matches' as bs) where
  expected_lt := by
    rw [map_fst_unmatched]
    exact unclaimed_sorted 0 _
  mem_expected := by
    intro i
    rw [map_fst_unmatched, mem_unclaimed_iff]
    constructor
    · rintro ⟨n, rfl, hnone⟩
      obtain ⟨hn, -⟩ := List.getElem?_eq_some_iff.mp hnone
      rw [length_assign] at hn
      rw [Nat.zero_add, chosen, hnone]
      exact ⟨hn, rfl⟩
    · rintro ⟨hi, hnone⟩
      exact ⟨i, (Nat.zero_add i).symm, claims_of_chosen_eq_none hi hnone⟩
  actual_lt := by
    exact (indexed_sorted bs).sublist ((filterMap_snd_unmatched_sublist matches' as bs).trans
      ((sublist_assign as (indexed bs)).map Prod.fst))
  actual_free := by
    intro j hj
    have hleft := (filterMap_snd_unmatched_sublist matches' as bs).subset hj
    have hindex : j ∈ (indexed bs).map Prod.fst :=
      ((sublist_assign as (indexed bs)).map Prod.fst).subset hleft
    rw [map_fst_indexed] at hindex
    refine ⟨List.mem_range.mp hindex, fun i hi => ?_⟩
    exact (List.nodup_append.mp (nodup_claims matches' as bs)).2.2 j (mem_claims_of_chosen hi) j
      hleft rfl
  actual_isSome := by
    intro hlength
    rw [← List.filterMap_length_eq_length, unmatched, filterMap_snd_zipLeft,
      List.length_take, length_leftover hlength, Nat.min_self, ← length_leftover hlength,
      ← List.length_map (f := Prod.fst), map_fst_zipLeft]

/-- **What first fit claims and what is reported.**  The claims are a matching in which
every element has the first partner that no earlier one has, and nothing that matches is
left over on both sides.  The report lists the elements that claim nothing, in order, and
next to them actual ones that nobody claimed, in order. -/
theorem unmatched_firstFit (matches' : α → β → Bool) (as : List α) (bs : List β) :
    FirstFit matches' as bs (chosen matches' as bs) ∧
      Reports as bs (chosen matches' as bs) (unmatched matches' as bs) :=
  ⟨chosen_firstFit matches' as bs, unmatched_reports matches' as bs⟩

/-- A pair of a report on as many elements on both sides has no partners in it. -/
theorem Reports.of_mem {pairs : List (Nat × Option Nat)} (h : Reports as bs f pairs)
    (hlength : as.length = bs.length) {i : Nat} {j : Option Nat} (hpair : (i, j) ∈ pairs) :
    i < as.length ∧ f i = none ∧ ∃ k, j = some k ∧ k < bs.length ∧ ∀ l, f l ≠ some k := by
  obtain ⟨hi, hnone⟩ := (h.mem_expected i).mp (List.mem_map_of_mem hpair)
  obtain ⟨k, rfl⟩ := Option.isSome_iff_exists.mp (h.actual_isSome hlength _ hpair)
  exact ⟨hi, hnone, k, rfl, h.actual_free k (List.mem_filterMap.mpr ⟨_, hpair, rfl⟩)⟩

/-- **Nobody is left alone among as many.**  With as many elements on both sides,
every element without a match is put next to one that nobody claimed. -/
theorem exists_partner_of_mem_unmatched (hlength : as.length = bs.length) {i : Nat}
    {j : Option Nat} (h : (i, j) ∈ unmatched matches' as bs) :
    i < as.length ∧ ∃ k, j = some k ∧ k < bs.length := by
  obtain ⟨hi, -, k, hj, hk, -⟩ := (unmatched_reports matches' as bs).of_mem hlength h
  exact ⟨hi, k, hj, hk⟩

/-- **Those left over do not match.**  With as many elements on both sides, an
element without a match is put next to one that it does not match. -/
theorem exists_refused_of_mem_unmatched (hlength : as.length = bs.length) {i : Nat}
    {j : Option Nat} (h : (i, j) ∈ unmatched matches' as bs) :
    ∃ a b, as[i]? = some a ∧ b ∈ bs ∧ matches' a b = false := by
  obtain ⟨hi, hnone, k, -, hk, hfree⟩ := (unmatched_reports matches' as bs).of_mem hlength h
  have hrefused := (chosen_firstFit matches' as bs).noRoom i k as[i] bs[k]
    (List.getElem?_eq_getElem hi) (List.getElem?_eq_getElem hk) hnone hfree
  exact ⟨as[i], bs[k], List.getElem?_eq_getElem hi, List.getElem_mem hk, hrefused⟩

/-! ## Matchings that leave out few -/

/-- Of four elements on two sides, three matches make the fourth. -/
def Zigzag (matches' : α → β → Bool) (as : List α) (bs : List β) : Prop :=
  ∀ a ∈ as, ∀ a' ∈ as, ∀ b ∈ bs, ∀ b' ∈ bs, matches' a b = true → matches' a' b = true →
    matches' a' b' = true → matches' a b' = true

/-- The number of expected elements without a partner. -/
def leftOut (as : List α) (f : Nat → Option Nat) : Nat :=
  ((Finset.range as.length).filter fun i => f i = none).card

/-- The expected elements with a partner. -/
def partnered (as : List α) (f : Nat → Option Nat) : Finset Nat :=
  (Finset.range as.length).filter fun i => f i ≠ none

theorem leftOut_add_card_partnered (as : List α) (f : Nat → Option Nat) :
    leftOut as f + (partnered as f).card = as.length := by
  rw [leftOut, partnered, Finset.card_filter_add_card_filter_not, Finset.card_range]

theorem Matching.mem_partnered (hf : Matching matches' as bs f) {i j : Nat}
    (h : f i = some j) : i ∈ partnered as f := by
  obtain ⟨a, -, ha, -⟩ := hf.sound h
  obtain ⟨hi, -⟩ := List.getElem?_eq_some_iff.mp ha
  exact Finset.mem_filter.mpr ⟨Finset.mem_range.mpr hi, by rw [h]; exact Option.some_ne_none j⟩

/-- Everything that matches an actual element has a partner. -/
def Served (matches' : α → β → Bool) (as : List α) (bs : List β) (f : Nat → Option Nat)
    (j : Nat) : Prop :=
  ∀ (i : Nat) (a : α) (b : β), as[i]? = some a → bs[j]? = some b → matches' a b = true →
    f i ≠ none

/-- Who counts in the second matching for an element with a partner in the first: itself,
if everything that matches this partner has one in the second matching anyway, and else
whoever has this partner there. -/
def CountsFor (matches' : α → β → Bool) (as : List α) (bs : List β) (g f : Nat → Option Nat)
    (i i' : Nat) : Prop :=
  ∃ j, g i = some j ∧ (Served matches' as bs f j ∧ i' = i ∨
    ¬ Served matches' as bs f j ∧ f i' = some j)

/-- Somebody counts for each, as the second matching has no room for more. -/
theorem exists_countsFor (hf : Matching matches' as bs f) (hroom : NoRoom matches' as bs f)
    (hg : Matching matches' as bs g) {i : Nat} (hi : i ∈ partnered as g) :
    ∃ i' ∈ partnered as f, CountsFor matches' as bs g f i i' := by
  obtain ⟨j, hj⟩ := Option.ne_none_iff_exists'.mp (Finset.mem_filter.mp hi).2
  obtain ⟨a, b, ha, hb, hmatch⟩ := hg.sound hj
  by_cases hserved : Served matches' as bs f j
  · refine ⟨i, ?_, j, hj, .inl ⟨hserved, rfl⟩⟩
    exact Finset.mem_filter.mpr ⟨(Finset.mem_filter.mp hi).1, hserved i a b ha hb hmatch⟩
  · -- an element without a partner would match, so the actual one cannot be free
    have htaken : ∃ i', f i' = some j := by
      by_contra hfree
      refine hserved fun i' a' b' ha' hb' hmatch' hnone => ?_
      have hrefused := hroom i' j a' b' ha' hb' hnone (not_exists.mp hfree)
      exact absurd hmatch' (by simp [hrefused])
    obtain ⟨i', hi'⟩ := htaken
    exact ⟨i', hf.mem_partnered hi', j, hj, .inr ⟨hserved, hi'⟩⟩

/-- Where matches zigzag, what one element matches is served alike. -/
theorem Served.of_shared (hzigzag : Zigzag matches' as bs) {i j j' : Nat} {a : α} {b b' : β}
    (hserved : Served matches' as bs f j) (ha : as[i]? = some a) (hb : bs[j]? = some b)
    (hb' : bs[j']? = some b') (hmatch : matches' a b = true) (hmatch' : matches' a b' = true) :
    Served matches' as bs f j' := by
  intro k c d hc hd hother
  obtain rfl : d = b' := Option.some.inj (hd.symm.trans hb')
  have hsame := hzigzag c (List.mem_of_getElem? hc) a (List.mem_of_getElem? ha) d
    (List.mem_of_getElem? hb') b (List.mem_of_getElem? hb) hother hmatch' hmatch
  exact hserved k c b hc hb hsame

/-- Nobody counts for two, where matches zigzag: the partners that one element has in both
matchings are served alike. -/
theorem eq_of_countsFor (hzigzag : Zigzag matches' as bs) (hf : Matching matches' as bs f)
    (hg : Matching matches' as bs g) {i k l : Nat}
    (hi : CountsFor matches' as bs g f i l) (hk : CountsFor matches' as bs g f k l) :
    i = k := by
  have hshared : ∀ {j j' : Nat}, g l = some j → f l = some j' →
      Served matches' as bs f j → Served matches' as bs f j' := by
    intro j j' hj hj' hserved
    obtain ⟨a, b, ha, hb, hmatch⟩ := hg.sound hj
    obtain ⟨a', b', ha', hb', hmatch'⟩ := hf.sound hj'
    obtain rfl : a = a' := Option.some.inj (ha.symm.trans ha')
    exact hserved.of_shared hzigzag ha hb hb' hmatch hmatch'
  obtain ⟨j, hj, ⟨hserved, rfl⟩ | ⟨hserved, hl⟩⟩ := hi <;>
    obtain ⟨j', hj', ⟨hserved', hl'⟩ | ⟨hserved', hl'⟩⟩ := hk
  · exact hl'
  · exact absurd (hshared hj hl' hserved) hserved'
  · exact absurd (hshared (hl' ▸ hj') hl hserved') hserved
  · obtain rfl : j = j' := Option.some.inj (hl.symm.trans hl')
    exact hg.injective hj hj'

/-- **A matching without room for more is a largest one**, where matches zigzag. -/
theorem Matching.leftOut_le (hzigzag : Zigzag matches' as bs)
    (hf : Matching matches' as bs f) (hroom : NoRoom matches' as bs f)
    (hg : Matching matches' as bs g) : leftOut as f ≤ leftOut as g := by
  have hcard : (partnered as g).card ≤ (partnered as f).card :=
    Finset.card_le_card_of_forall_subsingleton (CountsFor matches' as bs g f)
      (fun _ hi => exists_countsFor hf hroom hg hi)
      (fun _ _ _ hi _ hk => eq_of_countsFor hzigzag hf hg hi.2 hk.2)
  have hsum := leftOut_add_card_partnered as f
  have hsum' := leftOut_add_card_partnered as g
  omega

/-- A report lists as many elements as are left out. -/
theorem Reports.length_eq {pairs : List (Nat × Option Nat)} (h : Reports as bs f pairs) :
    pairs.length = leftOut as f := by
  have hset : (pairs.map Prod.fst).toFinset =
      (Finset.range as.length).filter fun i => f i = none := by
    ext i
    rw [List.mem_toFinset, h.mem_expected, Finset.mem_filter, Finset.mem_range]
  rw [leftOut, ← hset, List.toFinset_card_of_nodup h.expected_lt.nodup, List.length_map]

theorem leftOut_eq_zero_iff : leftOut as f = 0 ↔ ∀ i < as.length, f i ≠ none := by
  simp [leftOut, Finset.filter_eq_empty_iff]

/-- No matching leaves out fewer elements than first fit, where matches zigzag. -/
theorem length_unmatched_le (hzigzag : Zigzag matches' as bs)
    (hg : Matching matches' as bs g) : (unmatched matches' as bs).length ≤ leftOut as g := by
  have hfit := chosen_firstFit matches' as bs
  rw [(unmatched_reports matches' as bs).length_eq]
  exact hfit.toMatching.leftOut_le hzigzag hfit.noRoom hg

/-- **A matching of all elements is found**, if matches zigzag. -/
theorem unmatched_eq_nil_of_matching (hzigzag : Zigzag matches' as bs)
    (hg : Matching matches' as bs g) (hall : ∀ i < as.length, g i ≠ none) :
    unmatched matches' as bs = [] := by
  have hle := length_unmatched_le hzigzag hg
  rw [leftOut_eq_zero_iff.mpr hall] at hle
  exact List.eq_nil_of_length_eq_zero (Nat.le_zero.mp hle)

/-- Elements that match one to one in some order have a matching of all of them. -/
theorem exists_matching_of_perm {cs : List β} (hperm : cs.Perm bs)
    (h : List.Forall₂ (fun a c => matches' a c = true) as cs) :
    ∃ f, Matching matches' as bs f ∧ ∀ i < as.length, f i ≠ none := by
  -- the order of the elements is an order of their entries
  have hentries : List.Forall₂ (fun b entry => b = entry.2) bs (indexed bs) :=
    forall₂_indexed_iff.mpr (List.forall₂_same.mpr fun _ _ => rfl)
  obtain ⟨taken, htaken, hindexed⟩ := List.perm_comp_forall₂ hperm hentries
  have hmap : cs = taken.map Prod.snd := by
    rw [← List.forall₂_eq_eq_eq, List.forall₂_map_right_iff]
    exact htaken
  rw [hmap, List.forall₂_map_right_iff] at h
  obtain ⟨hlength, hmatch⟩ := List.forall₂_iff_get.mp h
  have hnodup : (taken.map Prod.fst).Nodup :=
    (hindexed.map Prod.fst).nodup_iff.mpr (indexed_sorted bs).nodup
  refine ⟨fun i => (taken.map Prod.fst)[i]?, ⟨?_, ?_⟩, ?_⟩
  · intro i j hj
    obtain ⟨hi, rfl⟩ := List.getElem?_eq_some_iff.mp hj
    rw [List.length_map] at hi
    have hentry : taken[i] ∈ indexed bs := hindexed.subset (List.getElem_mem hi)
    refine ⟨as[i], taken[i].2, List.getElem?_eq_getElem (hlength ▸ hi), ?_,
      hmatch i (hlength ▸ hi) hi⟩
    rw [List.getElem_map]
    exact mem_indexed_iff.mp hentry
  · intro i i' j hi hi'
    obtain ⟨hlt, -⟩ := List.getElem?_eq_some_iff.mp hi
    exact (List.getElem?_inj hlt hnodup).mp (hi.trans hi'.symm)
  · intro i hi
    have htaken : i < (taken.map Prod.fst).length := by rwa [List.length_map, ← hlength]
    exact Option.ne_none_iff_exists'.mpr ⟨_, List.getElem?_eq_getElem htaken⟩

/-- **A match in some order is found**, if matches zigzag. -/
theorem unmatched_eq_nil_of_perm {cs : List β} (hzigzag : Zigzag matches' as bs)
    (hperm : cs.Perm bs) (h : List.Forall₂ (fun a c => matches' a c = true) as cs) :
    unmatched matches' as bs = [] := by
  obtain ⟨f, hf, hall⟩ := exists_matching_of_perm hperm h
  exact unmatched_eq_nil_of_matching hzigzag hf hall

/-- **First fit leaves as few elements without a match as possible**, where matches
zigzag: as many as some matching leaves out and no other one less.  It leaves none
without a match if some matching leaves out none. -/
theorem unmatched_isLeast (hzigzag : Zigzag matches' as bs) :
    IsLeast {n | ∃ f, Matching matches' as bs f ∧ leftOut as f = n}
        (unmatched matches' as bs).length ∧
      ∀ f, Matching matches' as bs f → (∀ i < as.length, f i ≠ none) →
        unmatched matches' as bs = [] := by
  refine ⟨⟨?_, ?_⟩, fun f hf hall => unmatched_eq_nil_of_matching hzigzag hf hall⟩
  · exact ⟨chosen matches' as bs, chosen_matching matches' as bs,
      (unmatched_reports matches' as bs).length_eq.symm⟩
  · rintro n ⟨f, hf, rfl⟩
    exact length_unmatched_le hzigzag hf

/-- Numbers that match by their parity fall into two classes. -/
theorem unmatched_isLeast_parity :
    Zigzag (fun m n : Nat => m % 2 == n % 2) [1, 3, 2] [2, 5, 4] ∧
      unmatched (fun m n : Nat => m % 2 == n % 2) [1, 3, 2] [2, 5, 4] = [(1, some 2)] ∧
      IsLeast {n | ∃ f, Matching (fun m n : Nat => m % 2 == n % 2) [1, 3, 2] [2, 5, 4] f ∧
        leftOut [1, 3, 2] f = n} 1 := by
  have hzigzag : Zigzag (fun m n : Nat => m % 2 == n % 2) [1, 3, 2] [2, 5, 4] := by
    unfold Zigzag
    decide
  exact ⟨hzigzag, by decide, (unmatched_isLeast hzigzag).1⟩

/-- An element that takes anything is no zigzag, and can claim what a later one needed. -/
example : unmatched (fun wanted n => wanted.all (· == n)) [none, some 5] [5, 6] =
    [(1, some 1)] := by decide

end Expectation.Pairing
