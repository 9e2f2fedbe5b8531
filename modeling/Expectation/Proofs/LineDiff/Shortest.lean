import Expectation.Proofs.LineDiff
import Mathlib.Data.List.Chain
import Mathlib.Data.List.Infix

/-!
# The edit of lines is a shortest one

The table holds the length of a longest common subsequence of every pair of rear
parts of the two reversed lists.  So the walk through it is the walk that looks at
these lengths themselves: it keeps a line that both lists begin with, and otherwise
leaves out the line that costs nothing.  What it keeps is a longest common
subsequence, and as every edit keeps some common subsequence, no other one deletes
and inserts fewer lines.

The lengths also say in which order a changed block is listed.  The walk leaves out a
line of the actual list only where that costs nothing, and a line of the expected list
only where leaving out one of the actual list would cost something.  With one expected
line less to go that would still cost something, so the walk does not insert right behind
a deletion.  Read forwards, no deletion comes right behind an insertion.

## Main results

* `table_eq_commonLength`: what the table holds.
* `walk_eq_steps`: the walk through the table looks at the lengths.
* `edit_shortest`: the two sides of an edit, and that none is shorter.
* `edit_deletes_first`: the deletions of a changed block come first.
-/

namespace Expectation.LineDiff

variable {α : Type}

/-! ## What an edit keeps -/

/-- The lines of an edit that are kept. -/
def keptLines (lines : List (LineEdit × α)) : List α :=
  (lines.filter fun line => line.1 == .keep).map Prod.snd

/-- The number of deletions and insertions of an edit. -/
def changes (lines : List (LineEdit × α)) : Nat := lines.countP fun line => line.1 != .keep

/-- A common subsequence of two lists that no other one is longer than. -/
structure IsLongestCommon (common xs ys : List α) : Prop where
  /-- It is a subsequence of the first list. -/
  left : common.Sublist xs
  /-- It is a subsequence of the second list. -/
  right : common.Sublist ys
  /-- No common subsequence is longer. -/
  length_le : ∀ other : List α, other.Sublist xs → other.Sublist ys →
    other.length ≤ common.length

theorem keptLines_reverse (lines : List (LineEdit × α)) :
    keptLines lines.reverse = (keptLines lines).reverse := by
  rw [keptLines, List.filter_reverse, List.map_reverse, keptLines]

/-- What is kept is on a side that leaves out another kind of lines. -/
theorem keptLines_sublist {dropped : LineEdit} (hdropped : dropped ≠ .keep)
    (lines : List (LineEdit × α)) : (keptLines lines).Sublist
      ((lines.filter fun line => line.1 != dropped).map Prod.snd) := by
  refine (List.monotone_filter_right lines fun line hline => ?_).map Prod.snd
  rw [beq_iff_eq.mp hline]
  exact bne_iff_ne.mpr hdropped.symm

theorem keptLines_sublist_expectedSide (lines : List (LineEdit × α)) :
    (keptLines lines).Sublist (expectedSide lines) :=
  keptLines_sublist (by decide) lines

theorem keptLines_sublist_actualSide (lines : List (LineEdit × α)) :
    (keptLines lines).Sublist (actualSide lines) :=
  keptLines_sublist (by decide) lines

/-- A line that is kept is on both sides, another one is a change on one of them. -/
theorem length_sides (lines : List (LineEdit × α)) :
    (expectedSide lines).length + (actualSide lines).length =
      changes lines + 2 * (keptLines lines).length := by
  induction lines with
  | nil => rfl
  | cons line lines ih =>
      obtain ⟨step, x⟩ := line
      simp only [expectedSide, actualSide, keptLines, changes, List.length_map] at ih ⊢
      cases step with
      | keep => simp; omega
      | delete => simp; omega
      | insert => simp; omega

variable [DecidableEq α]

/-! ## The length of a longest common subsequence -/

/-- The length of a longest common subsequence, by the way in which the table is
filled. -/
def commonLength : List α → List α → Nat
  | [], _ => 0
  | _ :: _, [] => 0
  | x :: xs, y :: ys =>
    if x = y then commonLength xs ys + 1
    else max (commonLength xs (y :: ys)) (commonLength (x :: xs) ys)
termination_by xs ys => xs.length + ys.length

@[simp] theorem commonLength_nil_left (ys : List α) : commonLength [] ys = 0 := by
  rw [commonLength]

@[simp] theorem commonLength_nil_right (xs : List α) : commonLength xs [] = 0 := by
  cases xs with
  | nil => exact commonLength_nil_left []
  | cons x xs => rw [commonLength]

theorem commonLength_cons_cons (x y : α) (xs ys : List α) :
    commonLength (x :: xs) (y :: ys) =
      if x = y then commonLength xs ys + 1
      else max (commonLength xs (y :: ys)) (commonLength (x :: xs) ys) := by
  rw [commonLength]

/-- Some common subsequence has this length. -/
theorem exists_common (xs ys : List α) :
    ∃ common : List α, common.Sublist xs ∧ common.Sublist ys ∧
      common.length = commonLength xs ys := by
  fun_induction commonLength xs ys with
  | case1 ys => exact ⟨[], List.Sublist.refl _, List.nil_sublist ys, rfl⟩
  | case2 x xs => exact ⟨[], List.nil_sublist _, List.Sublist.refl _, rfl⟩
  | case3 xs y ys ih =>
      obtain ⟨common, hx, hy, hlength⟩ := ih
      exact ⟨y :: common, hx.cons_cons y, hy.cons_cons y, congrArg (· + 1) hlength⟩
  | case4 x xs y ys _ ihx ihy =>
      obtain ⟨common, hx, hy, hlength⟩ := ihx
      obtain ⟨common', hx', hy', hlength'⟩ := ihy
      rcases Nat.le_total (commonLength xs (y :: ys)) (commonLength (x :: xs) ys) with hle | hle
      · exact ⟨common', hx', hy'.cons y, by rw [hlength', Nat.max_eq_right hle]⟩
      · exact ⟨common, hx.cons x, hy, by rw [hlength, Nat.max_eq_left hle]⟩

/-- No common subsequence is longer. -/
theorem length_le_commonLength {common xs ys : List α} (hx : common.Sublist xs)
    (hy : common.Sublist ys) : common.length ≤ commonLength xs ys := by
  fun_induction commonLength xs ys generalizing common with
  | case1 ys => rw [List.sublist_nil.mp hx]; exact Nat.le_refl 0
  | case2 x xs => rw [List.sublist_nil.mp hy]; exact Nat.le_refl 0
  | case3 xs y ys ih =>
      have htail := ih hx.tail hy.tail
      rw [List.length_tail] at htail
      omega
  | case4 x xs y ys hne ihx ihy =>
      -- the two first lines differ, so one of them is not the first one in common
      rcases List.sublist_cons_iff.mp hx with hx' | ⟨rest, rfl, -⟩
      · exact Nat.le_trans (ihx hx' hy) (Nat.le_max_left ..)
      · rcases List.sublist_cons_iff.mp hy with hy' | ⟨rest', heq, -⟩
        · exact Nat.le_trans (ihy hx hy') (Nat.le_max_right ..)
        · exact absurd (List.cons.inj heq).1 hne

/-- More lines have no shorter subsequences in common. -/
theorem commonLength_mono {xs xs' ys ys' : List α} (hxs : xs.Sublist xs')
    (hys : ys.Sublist ys') : commonLength xs ys ≤ commonLength xs' ys' := by
  obtain ⟨common, hx, hy, hlength⟩ := exists_common xs ys
  rw [← hlength]
  exact length_le_commonLength (hx.trans hxs) (hy.trans hys)

/-! ## The table -/

/-- A row holds what two lists have in common, if the row below it does. -/
theorem row_eq_commonLength (x : α) (xs ys : List α) :
    row x ys (ys.tails.map (commonLength xs)) = ys.tails.map (commonLength (x :: xs)) := by
  induction ys with
  | nil => simp [row]
  | cons y ys ih =>
      have hhead : ∀ zs : List α, (ys.tails.map (commonLength zs)).headD 0 =
          commonLength zs ys := by
        intro zs
        cases ys <;> rfl
      rw [List.tails_cons, List.map_cons, List.map_cons, row, List.tail_cons, ih,
        List.headD_cons, hhead, hhead, commonLength_cons_cons]

/-- **What the table holds**: what every rear part of the first list has in common with
every rear part of the second. -/
theorem table_eq_commonLength (xs ys : List α) :
    table xs ys = xs.tails.map fun rest => ys.tails.map (commonLength rest) := by
  induction xs with
  | nil =>
      have hzero : commonLength ([] : List α) = fun _ => 0 := funext commonLength_nil_left
      simp [table, hzero, List.map_const']
  | cons x xs ih =>
      have hhead : (xs.tails.map fun rest => ys.tails.map (commonLength rest)).headD [] =
          ys.tails.map (commonLength xs) := by
        cases xs <;> rfl
      rw [table, ih, hhead, row_eq_commonLength, List.tails_cons, List.map_cons]

/-- The rows and the place in them belong to what is left of the two lists. -/
def TableAt (rows : List (Array Nat)) (j : Nat) (xs ys : List α) : Prop :=
  ∃ all : List α, rows = (table xs all).map List.toArray ∧ all.drop j = ys

theorem TableAt.entry_eq {rows : List (Array Nat)} {j : Nat} {xs ys : List α}
    (h : TableAt rows j xs ys) : entry rows j = commonLength xs ys := by
  obtain ⟨all, rfl, rfl⟩ := h
  have hfirst : ((table xs all).map List.toArray).head?.getD #[] =
      (all.tails.map (commonLength xs)).toArray := by
    rw [table_eq_commonLength]
    cases xs <;> rfl
  rw [entry, hfirst, List.getElem?_toArray]
  rcases Nat.lt_or_ge j all.tails.length with hlt | hge
  · simp [List.getElem?_eq_getElem hlt]
  · rw [List.length_tails] at hge
    rw [List.getElem?_eq_none (by simpa using hge), List.drop_eq_nil_of_le (by omega),
      commonLength_nil_right, Option.getD_none]

/-- An expected line is passed with the row that begins at it. -/
theorem TableAt.tail {rows : List (Array Nat)} {j : Nat} {x : α} {xs ys : List α}
    (h : TableAt rows j (x :: xs) ys) : TableAt rows.tail j xs ys := by
  obtain ⟨all, rfl, hpassed⟩ := h
  exact ⟨all, rfl, hpassed⟩

/-- An actual line is passed in all rows. -/
theorem TableAt.next {rows : List (Array Nat)} {j : Nat} {y : α} {xs ys : List α}
    (h : TableAt rows j xs (y :: ys)) : TableAt rows (j + 1) xs ys := by
  obtain ⟨all, hrows, hpassed⟩ := h
  exact ⟨all, hrows, by rw [← List.tail_drop, hpassed, List.tail_cons]⟩

/-! ## The walk -/

/-- The edit of two reversed lists, last line first, as the lengths of the common
subsequences tell it. -/
def steps : List α → List α → List (LineEdit × α)
  | [], [] => []
  | [], y :: ys => (.insert, y) :: steps [] ys
  | x :: xs, [] => (.delete, x) :: steps xs []
  | x :: xs, y :: ys =>
    if x = y then (.keep, x) :: steps xs ys
    else if commonLength xs (y :: ys) ≤ commonLength (x :: xs) ys then
      (.insert, y) :: steps (x :: xs) ys
    else (.delete, x) :: steps xs (y :: ys)
termination_by xs ys => xs.length + ys.length

/-- **The walk through the table looks at the lengths.** -/
theorem walk_eq_steps {fuel : Nat} {xs ys : List α} {j : Nat} {rows : List (Array Nat)}
    (hfuel : xs.length + ys.length ≤ fuel) (htable : TableAt rows j xs ys) :
    walk fuel xs ys j rows = steps xs ys := by
  fun_induction walk fuel xs ys j rows with
  | case1 xs ys =>
      obtain ⟨hxs, hys⟩ := Nat.add_eq_zero_iff.mp (Nat.le_zero.mp hfuel)
      rw [List.eq_nil_of_length_eq_zero hxs, List.eq_nil_of_length_eq_zero hys, steps]
  | case2 => rw [steps]
  | case3 fuel y ys j rows ih => rw [steps, ih (by simpa using hfuel) htable.next]
  | case4 fuel x xs j rows ih => rw [steps, ih (by simpa using hfuel) htable.tail]
  | case5 fuel xs x ys j rows ih =>
      simp only [List.length_cons] at hfuel
      rw [steps, if_pos rfl, ih (by omega) htable.next.tail]
  | case6 fuel x xs y ys j rows hne hle ih =>
      rw [htable.tail.entry_eq, htable.next.entry_eq] at hle
      simp only [List.length_cons] at hfuel ih
      rw [steps, if_neg hne, if_pos hle, ih (by omega) htable.next]
  | case7 fuel x xs y ys j rows hne hle ih =>
      rw [htable.tail.entry_eq, htable.next.entry_eq] at hle
      simp only [List.length_cons] at hfuel ih
      rw [steps, if_neg hne, if_neg hle, ih (by omega) htable.tail]

theorem edit_eq_steps (expected actual : List α) :
    edit expected actual = (steps expected.reverse actual.reverse).reverse :=
  congrArg List.reverse (walk_eq_steps (Nat.le_refl _) ⟨actual.reverse, rfl, rfl⟩)

/-- The walk keeps as many lines as a longest common subsequence has. -/
theorem length_keptLines_steps (xs ys : List α) :
    (keptLines (steps xs ys)).length = commonLength xs ys := by
  fun_induction steps xs ys with
  | case1 => rw [commonLength_nil_left]; rfl
  | case2 y ys ih => rw [commonLength_nil_left] at ih ⊢; exact ih
  | case3 x xs ih => rw [commonLength_nil_right] at ih ⊢; exact ih
  | case4 xs y ys ih =>
      rw [commonLength_cons_cons, if_pos rfl, ← ih]
      rfl
  | case5 x xs y ys hne hle ih =>
      rw [commonLength_cons_cons, if_neg hne, Nat.max_eq_right hle, ← ih]
      rfl
  | case6 x xs y ys hne hlt ih =>
      rw [commonLength_cons_cons, if_neg hne, Nat.max_eq_left (Nat.le_of_not_le hlt), ← ih]
      rfl

/-- What an edit keeps is a longest common subsequence. -/
theorem isLongestCommon_keptLines (expected actual : List α) :
    IsLongestCommon (keptLines (edit expected actual)) expected actual where
  left := by
    have hkept := keptLines_sublist_expectedSide (edit expected actual)
    rwa [edit_expected] at hkept
  right := by
    have hkept := keptLines_sublist_actualSide (edit expected actual)
    rwa [edit_actual] at hkept
  length_le := by
    intro other hexpected hactual
    rw [edit_eq_steps, keptLines_reverse, List.length_reverse, length_keptLines_steps,
      ← List.length_reverse]
    exact length_le_commonLength hexpected.reverse hactual.reverse

/-- **The edit of lines is a shortest one.**  It is an edit of the two lists, the lines it
keeps are a longest common subsequence of them, and no other edit of the two lists
deletes and inserts fewer lines. -/
theorem edit_shortest (expected actual : List α) :
    expectedSide (edit expected actual) = expected ∧
      actualSide (edit expected actual) = actual ∧
      IsLongestCommon (keptLines (edit expected actual)) expected actual ∧
      ∀ other : List (LineEdit × α), expectedSide other = expected →
        actualSide other = actual → changes (edit expected actual) ≤ changes other := by
  have hexpected := edit_expected expected actual
  have hactual := edit_actual expected actual
  have hlongest := isLongestCommon_keptLines expected actual
  refine ⟨hexpected, hactual, hlongest, ?_⟩
  intro other hother hother'
  have hkept : (keptLines other).length ≤ (keptLines (edit expected actual)).length :=
    hlongest.length_le _ (hother ▸ keptLines_sublist_expectedSide other)
      (hother' ▸ keptLines_sublist_actualSide other)
  have hsides := length_sides other
  have hsides' := length_sides (edit expected actual)
  rw [hother, hother'] at hsides
  rw [hexpected, hactual] at hsides'
  omega

/-! ## The order of a changed block -/

/-- The walk begins with an insertion only where leaving out the actual line costs
nothing. -/
theorem commonLength_le_of_insert {xs ys : List α} {line : LineEdit × α}
    (hline : (steps xs ys).head? = some line) (hinsert : line.1 = .insert) :
    ys ≠ [] ∧ commonLength xs ys ≤ commonLength xs ys.tail := by
  revert hline
  fun_cases steps xs ys with
  | case1 => exact fun hline => absurd hline (by simp)
  | case2 y ys => exact fun _ => ⟨List.cons_ne_nil y ys, by simp⟩
  | case5 x xs y ys hne hle =>
      rw [commonLength_cons_cons, if_neg hne, Nat.max_eq_right hle]
      exact fun _ => ⟨List.cons_ne_nil y ys, Nat.le_refl _⟩
  -- elsewhere the first line is kept or deleted
  | case3 | case4 | case6 =>
      intro hline
      obtain rfl := Option.some.inj hline
      exact absurd hinsert (by simp)

/-- Backwards no insertion comes right behind a deletion: leaving out an actual line
still costs something when one expected line less is left. -/
theorem steps_deletes_last (xs ys : List α) :
    (steps xs ys).IsChain fun line next => ¬ (line.1 = .delete ∧ next.1 = .insert) := by
  fun_induction steps xs ys with
  | case1 => exact .nil
  | case2 y ys ih => exact List.isChain_cons.mpr ⟨fun _ _ h => absurd h.1 (by simp), ih⟩
  | case3 x xs ih =>
      refine List.isChain_cons.mpr ⟨fun line hline h => ?_, ih⟩
      exact (commonLength_le_of_insert hline h.2).1 rfl
  | case4 xs y ys ih => exact List.isChain_cons.mpr ⟨fun _ _ h => absurd h.1 (by simp), ih⟩
  | case5 x xs y ys _ _ ih =>
      exact List.isChain_cons.mpr ⟨fun _ _ h => absurd h.1 (by simp), ih⟩
  | case6 x xs y ys _ hlt ih =>
      refine List.isChain_cons.mpr ⟨fun line hline h => hlt ?_, ih⟩
      calc commonLength xs (y :: ys)
          ≤ commonLength xs ys := (commonLength_le_of_insert hline h.2).2
        _ ≤ commonLength (x :: xs) ys :=
            commonLength_mono (List.sublist_cons_self x xs) (List.Sublist.refl ys)

omit [DecidableEq α] in
/-- A changed block without a deletion right behind an insertion is its deletions and
then its insertions. -/
theorem exists_deleted_inserted {block : List (LineEdit × α)}
    (hchain : block.IsChain fun line next => ¬ (line.1 = .insert ∧ next.1 = .delete))
    (hchanged : ∀ line ∈ block, line.1 ≠ .keep) :
    ∃ deleted inserted : List α,
      block = deleted.map (Prod.mk .delete) ++ inserted.map (Prod.mk .insert) := by
  induction block with
  | nil => exact ⟨[], [], rfl⟩
  | cons line block ih =>
      obtain ⟨hfirst, hrest⟩ := List.isChain_cons.mp hchain
      obtain ⟨deleted, inserted, rfl⟩ := ih hrest fun l hl =>
        hchanged l (List.mem_cons_of_mem _ hl)
      obtain ⟨step, x⟩ := line
      cases step with
      | keep => exact absurd rfl (hchanged _ List.mem_cons_self)
      | delete => exact ⟨x :: deleted, inserted, rfl⟩
      | insert =>
          cases deleted with
          | nil => exact ⟨[], x :: inserted, rfl⟩
          | cons d deleted => exact absurd ⟨rfl, rfl⟩ (hfirst (.delete, d) rfl)

/-- **The deletions of a changed block come first.**  No insertion is followed at once
by a deletion, and a run of lines without any that is kept is deletions and then
insertions. -/
theorem edit_deletes_first (expected actual : List α) :
    ((edit expected actual).IsChain fun line next =>
        ¬ (line.1 = .insert ∧ next.1 = .delete)) ∧
      ∀ before block after : List (LineEdit × α),
        edit expected actual = before ++ block ++ after →
        (∀ line ∈ block, line.1 ≠ .keep) →
        ∃ deleted inserted : List α,
          block = deleted.map (Prod.mk .delete) ++ inserted.map (Prod.mk .insert) := by
  have hchain : (edit expected actual).IsChain fun line next =>
      ¬ (line.1 = .insert ∧ next.1 = .delete) := by
    rw [edit_eq_steps, List.isChain_reverse]
    exact (steps_deletes_last _ _).imp fun _ _ h hinsert => h hinsert.symm
  refine ⟨hchain, ?_⟩
  intro before block after hedit hchanged
  rw [hedit, List.append_assoc] at hchain
  have hrest := (List.isChain_append.mp hchain).2.1
  exact exists_deleted_inserted (List.isChain_append.mp hrest).1 hchanged

end Expectation.LineDiff
