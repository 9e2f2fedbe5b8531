/-!
# Pairing two collections first fit

When the order of a collection does not count, each expected element, one after
the other, claims the first actual element it matches that no other has
claimed. What is left on both sides is paired in order, so that a report can
show something next to an element without a match.

The pairing is not the best possible one: an early element can claim what a
later one needed.

## Main results

* `length_assign`: every expected element gets an answer.
-/

namespace Expectation.Pairing

/-- The first entry whose element passes the test, by its index, and the other
entries. -/
def claim {β : Type} (test : β → Bool) : List (Nat × β) → Option (Nat × List (Nat × β))
  | [] => none
  | (j, b) :: free =>
    if test b then some (j, free)
    else (claim test free).map fun (k, left) => (k, (j, b) :: left)

/-- For each expected element the index of the actual element it claims, if
any, and the entries that nobody claimed. -/
def assign {α β : Type} (matches' : α → β → Bool) :
    List α → List (Nat × β) → List (Option Nat) × List (Nat × β)
  | [], free => ([], free)
  | a :: as, free =>
    match claim (matches' a) free with
    | some (j, left) =>
      let (claims, rest) := assign matches' as left
      (some j :: claims, rest)
    | none =>
      let (claims, rest) := assign matches' as free
      (none :: claims, rest)

/-- The elements of a list with their indices. -/
def indexed {β : Type} (bs : List β) : List (Nat × β) :=
  bs.mapIdx fun j b => (j, b)

/-- The indices, counted from `i`, at which nothing was claimed. -/
def unclaimed (i : Nat) : List (Option Nat) → List Nat
  | [] => []
  | some _ :: rest => unclaimed (i + 1) rest
  | none :: rest => i :: unclaimed (i + 1) rest

/-- Each index of the first list with the one at the same place of the second,
as far as that list goes. -/
def zipLeft : List Nat → List Nat → List (Nat × Option Nat)
  | [], _ => []
  | i :: is, [] => (i, none) :: zipLeft is []
  | i :: is, j :: js => (i, some j) :: zipLeft is js

/-- The indices of the expected elements without a match, each with the index
of an actual element that nobody claimed, as long as there are any. -/
def unmatched {α β : Type} (matches' : α → β → Bool) (as : List α) (bs : List β) :
    List (Nat × Option Nat) :=
  let (claims, free) := assign matches' as (indexed bs)
  zipLeft (unclaimed 0 claims) (free.map Prod.fst)

theorem length_assign {α β : Type} (matches' : α → β → Bool) (as : List α)
    (free : List (Nat × β)) : (assign matches' as free).1.length = as.length := by
  induction as generalizing free with
  | nil => rfl
  | cons a as ih =>
    unfold assign
    split <;> simp [ih]

end Expectation.Pairing
