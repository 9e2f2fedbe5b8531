import Mathlib.Logic.Function.Iterate
import Expectation.Regex

/-!
# Sets of places find what matches

Whether a regular expression matches somewhere is computed on sets of places, all matches at
once, while a match is explained one at a time, by the text that it takes and the text
around it.  The two are tied here.  A match leads from one place of a text to another, so an
expression is a relation of places, and its run takes a set along that relation.

Repetitions need an argument.  The run looks at only so many rounds, and stops early when a
round changes nothing.  Rounds that take nothing can be left out of a match, the others move
on by at least one place each, so no more rounds are needed than there are places.

## Main results

* `matches_rep`: a repetition is a number of copies within its bounds.
* `repeats_bounded`: no more copies are needed than there are places.
* `follows_run`: the run of an expression goes along its matches.
* `isMatch_iff`: whether an expression matches somewhere.
-/

namespace Expectation.Regex

/-! ## Matches, one operator at a time -/

section Matches

variable {r s : Regex} {l m rest : List Char}

theorem matches_empty : Matches .empty l m rest ↔ m = [] := by
  constructor
  · rintro ⟨⟩
    rfl
  · rintro rfl
    exact .empty

theorem matches_one {accepts : Char → Bool} :
    Matches (.one accepts) l m rest ↔ ∃ c, m = [c] ∧ accepts c = true := by
  constructor
  · rintro ⟨⟩
    exact ⟨_, rfl, ‹_›⟩
  · rintro ⟨c, rfl, hc⟩
    exact .one hc

theorem matches_look {holds : Option Char → Option Char → Bool} :
    Matches (.look holds) l m rest ↔ m = [] ∧ holds l.head? rest.head? = true := by
  constructor
  · rintro ⟨⟩
    exact ⟨rfl, ‹_›⟩
  · rintro ⟨rfl, h⟩
    exact .look h

theorem matches_seq : Matches (.seq r s) l m rest ↔
    ∃ m₁ m₂, m = m₁ ++ m₂ ∧ Matches r l m₁ (m₂ ++ rest) ∧ Matches s (m₁.reverse ++ l) m₂ rest := by
  constructor
  · rintro ⟨⟩
    exact ⟨_, _, rfl, ‹_›, ‹_›⟩
  · rintro ⟨m₁, m₂, rfl, hr, hs⟩
    exact .seq hr hs

theorem matches_alt : Matches (.alt r s) l m rest ↔ Matches r l m rest ∨ Matches s l m rest := by
  constructor
  · rintro ⟨⟩
    · exact .inl ‹_›
    · exact .inr ‹_›
  · rintro (h | h)
    · exact .left h
    · exact .right h

/-- The expression several times in a row. -/
def copies (r : Regex) : Nat → Regex
  | 0 => .empty
  | n + 1 => .seq r (copies r n)

theorem exists_copies_of_matches_rep {least : Nat} {most : Option Nat}
    (h : Matches (.rep least most r) l m rest) :
    ∃ n, least ≤ n ∧ (∀ bound ∈ most, n ≤ bound) ∧ Matches (copies r n) l m rest := by
  generalize hq : Regex.rep least most r = q at h
  induction h generalizing least most with
  | done =>
      cases hq
      exact ⟨0, Nat.le_refl 0, fun _ _ => Nat.zero_le _, .empty⟩
  | more hm hr _ _ ih =>
      cases hq
      obtain ⟨n, hleast, hmost, hn⟩ := ih rfl
      refine ⟨n + 1, by omega, fun bound hbound => ?_, .seq hr hn⟩
      have hpos : bound ≠ 0 := by
        rintro rfl
        exact hm hbound
      have hless := hmost (bound - 1) (by simp [Option.mem_def.mp hbound])
      omega
  | _ => cases hq

theorem matches_rep_of_copies {least : Nat} {most : Option Nat} {n : Nat} (hleast : least ≤ n)
    (hmost : ∀ bound ∈ most, n ≤ bound) (h : Matches (copies r n) l m rest) :
    Matches (.rep least most r) l m rest := by
  induction n generalizing least most l m with
  | zero =>
      obtain rfl := matches_empty.mp h
      obtain rfl : least = 0 := by omega
      exact .done
  | succ n ih =>
      obtain ⟨m₁, m₂, rfl, hr, hn⟩ := matches_seq.mp h
      refine .more ?_ hr (ih (by omega) ?_ hn)
      · rintro rfl
        exact absurd (hmost 0 rfl) (by omega)
      · intro bound hbound
        obtain ⟨b, hb, rfl⟩ := Option.map_eq_some_iff.mp hbound
        have := hmost b hb
        omega

/-- **A repetition is a number of copies** within its bounds. -/
theorem matches_rep {least : Nat} {most : Option Nat} : Matches (.rep least most r) l m rest ↔
    ∃ n, least ≤ n ∧ (∀ bound ∈ most, n ≤ bound) ∧ Matches (copies r n) l m rest :=
  ⟨exists_copies_of_matches_rep, fun ⟨_, hleast, hmost, h⟩ => matches_rep_of_copies hleast hmost h⟩

end Matches

/-! ## From place to place -/

/-- A match in a text leads from one place to another. -/
def Spans (text : List Char) (r : Regex) (i j : Nat) : Prop :=
  ∃ l m rest, text = l ++ (m ++ rest) ∧ l.length = i ∧ (l ++ m).length = j ∧
    Matches r l.reverse m rest

/-- Several steps along a relation. -/
def Repeats (R : Nat → Nat → Prop) : Nat → Nat → Nat → Prop
  | 0, i, j => i = j
  | n + 1, i, k => ∃ j, R i j ∧ Repeats R n j k

section Spans

variable {text : List Char} {r s : Regex} {i j k : Nat}

theorem Spans.le (h : Spans text r i j) : i ≤ j := by
  obtain ⟨l, m, rest, -, rfl, rfl, -⟩ := h
  simp

theorem Spans.le_length (h : Spans text r i j) : j ≤ text.length := by
  obtain ⟨l, m, rest, rfl, -, rfl, -⟩ := h
  simp only [List.length_append]
  omega

theorem spans_empty : Spans text .empty i j ↔ i = j ∧ i ≤ text.length := by
  constructor
  · intro h
    have hle := Nat.le_trans h.le h.le_length
    obtain ⟨l, m, rest, -, rfl, rfl, h⟩ := h
    exact ⟨by simp [matches_empty.mp h], hle⟩
  · rintro ⟨rfl, h⟩
    exact ⟨text.take i, [], text.drop i, by simp, by simp [h], by simp [h], .empty⟩

theorem spans_one {accepts : Char → Bool} : Spans text (.one accepts) i j ↔
    j = i + 1 ∧ ∃ c, text[i]? = some c ∧ accepts c = true := by
  constructor
  · rintro ⟨l, m, rest, rfl, rfl, rfl, h⟩
    obtain ⟨c, rfl, hc⟩ := matches_one.mp h
    exact ⟨by simp, c, by simp, hc⟩
  · rintro ⟨rfl, c, hc, haccepts⟩
    obtain ⟨hi, hget⟩ := List.getElem?_eq_some_iff.mp hc
    refine ⟨text.take i, [c], text.drop (i + 1), ?_, by simp; omega, by simp; omega,
      .one haccepts⟩
    rw [List.singleton_append, ← hget, List.getElem_cons_drop, List.take_append_drop]

theorem spans_look {holds : Option Char → Option Char → Bool} : Spans text (.look holds) i j ↔
    i = j ∧ i ≤ text.length ∧ holds (text.take i).getLast? text[i]? = true := by
  constructor
  · rintro ⟨l, m, rest, rfl, rfl, rfl, h⟩
    obtain ⟨rfl, hholds⟩ := matches_look.mp h
    rw [List.head?_reverse] at hholds
    refine ⟨by simp, by simp, ?_⟩
    rw [List.nil_append, List.take_left, List.getElem?_append_right (Nat.le_refl _), Nat.sub_self,
      ← List.head?_eq_getElem?]
    exact hholds
  · rintro ⟨rfl, hi, h⟩
    refine ⟨text.take i, [], text.drop i, by simp, by simp [hi], by simp [hi], ?_⟩
    refine .look ?_
    rw [List.head?_reverse, List.head?_drop]
    exact h

/-- **Matches in a row** meet at a place. -/
theorem spans_seq : Spans text (.seq r s) i k ↔ ∃ j, Spans text r i j ∧ Spans text s j k := by
  constructor
  · rintro ⟨l, m, rest, rfl, rfl, rfl, h⟩
    obtain ⟨m₁, m₂, rfl, hr, hs⟩ := matches_seq.mp h
    refine ⟨(l ++ m₁).length, ⟨l, m₁, m₂ ++ rest, by simp, rfl, rfl, hr⟩,
      ⟨l ++ m₁, m₂, rest, by simp, rfl, by simp, ?_⟩⟩
    rwa [List.reverse_append]
  · rintro ⟨j, ⟨l, m₁, rest₁, htext, rfl, rfl, hr⟩, ⟨l₂, m₂, rest, htext₂, hlength, rfl, hs⟩⟩
    rw [htext, ← List.append_assoc] at htext₂
    obtain ⟨rfl, rfl⟩ := List.append_inj htext₂ hlength.symm
    rw [List.reverse_append] at hs
    exact ⟨l, m₁ ++ m₂, rest, by rw [htext]; simp, rfl, by simp, .seq hr hs⟩

theorem spans_alt : Spans text (.alt r s) i j ↔ Spans text r i j ∨ Spans text s i j := by
  simp only [Spans, matches_alt, and_or_left, exists_or]

theorem spans_copies {n : Nat} : Spans text (copies r n) i j ↔
    i ≤ text.length ∧ Repeats (Spans text r) n i j := by
  induction n generalizing i with
  | zero => exact spans_empty.trans and_comm
  | succ n ih =>
      rw [copies, spans_seq]
      constructor
      · rintro ⟨k, hr, hn⟩
        exact ⟨Nat.le_trans hr.le hr.le_length, k, hr, (ih.mp hn).2⟩
      · rintro ⟨-, k, hr, hn⟩
        exact ⟨k, hr, ih.mpr ⟨hr.le_length, hn⟩⟩

theorem spans_rep {least : Nat} {most : Option Nat} : Spans text (.rep least most r) i j ↔
    i ≤ text.length ∧ ∃ n, least ≤ n ∧ (∀ bound ∈ most, n ≤ bound) ∧
      Repeats (Spans text r) n i j := by
  have hcopies : Spans text (.rep least most r) i j ↔
      ∃ n, least ≤ n ∧ (∀ bound ∈ most, n ≤ bound) ∧ Spans text (copies r n) i j := by
    simp only [Spans, matches_rep]
    constructor
    · rintro ⟨l, m, rest, htext, hi, hj, n, hleast, hmost, h⟩
      exact ⟨n, hleast, hmost, l, m, rest, htext, hi, hj, h⟩
    · rintro ⟨n, hleast, hmost, l, m, rest, htext, hi, hj, h⟩
      exact ⟨l, m, rest, htext, hi, hj, n, hleast, hmost, h⟩
  simp only [hcopies, spans_copies]
  constructor
  · rintro ⟨n, hleast, hmost, hi, h⟩
    exact ⟨hi, n, hleast, hmost, h⟩
  · rintro ⟨hi, n, hleast, hmost, h⟩
    exact ⟨n, hleast, hmost, hi, h⟩

end Spans

/-! ## Repeated steps -/

section Repeats

variable {R : Nat → Nat → Prop} {i j k n p : Nat}

theorem repeats_add : Repeats R (n + p) i k ↔ ∃ j, Repeats R n i j ∧ Repeats R p j k := by
  induction n generalizing i with
  | zero => simp [Repeats]
  | succ n ih =>
      rw [Nat.add_right_comm]
      simp only [Repeats, ih]
      constructor
      · rintro ⟨u, hu, j, hj, hk⟩
        exact ⟨j, ⟨u, hu, hj⟩, hk⟩
      · rintro ⟨j, ⟨u, hu, hj⟩, hk⟩
        exact ⟨u, hu, j, hj, hk⟩

/-- A number of rounds in which one may also stay is at most as many steps. -/
theorem repeats_or_eq : Repeats (fun i j => i = j ∨ R i j) n i j ↔ ∃ k ≤ n, Repeats R k i j := by
  induction n generalizing i with
  | zero =>
      constructor
      · exact fun h => ⟨0, Nat.le_refl 0, h⟩
      · rintro ⟨k, hk, h⟩
        obtain rfl : k = 0 := by omega
        exact h
  | succ n ih =>
      simp only [Repeats, ih]
      constructor
      · rintro ⟨u, rfl | hu, k, hk, h⟩
        · exact ⟨k, by omega, h⟩
        · exact ⟨k + 1, by omega, u, hu, h⟩
      · rintro ⟨k, hk, h⟩
        cases k with
        | zero => exact ⟨i, .inl rfl, 0, by omega, h⟩
        | succ k =>
            obtain ⟨u, hu, h⟩ := h
            exact ⟨u, .inr hu, k, by omega, h⟩

theorem Repeats.le (hR : ∀ i j, R i j → i ≤ j) (h : Repeats R n i j) : i ≤ j := by
  induction n generalizing i with
  | zero => exact Nat.le_of_eq h
  | succ n ih =>
      obtain ⟨u, hu, hrest⟩ := h
      exact Nat.le_trans (hR i u hu) (ih hrest)

/-- **No more steps are needed than there are places**: along a relation that never goes
back, those that stay can be left out. -/
theorem repeats_bounded (hR : ∀ i j, R i j → i ≤ j) (h : Repeats R n i j) :
    ∃ k ≤ j - i, Repeats R k i j := by
  induction n generalizing i with
  | zero => exact ⟨0, Nat.zero_le _, h⟩
  | succ n ih =>
      obtain ⟨u, hu, hrest⟩ := h
      obtain ⟨k, hk, hsteps⟩ := ih hrest
      rcases Nat.eq_or_lt_of_le (hR i u hu) with rfl | hlt
      · exact ⟨k, hk, hsteps⟩
      · have hle := hsteps.le hR
        exact ⟨k + 1, by omega, u, hu, hsteps⟩

end Repeats

/-! ## Sets of places -/

/-- A place is in the set. -/
def Marks.Has (s : Marks) (i : Nat) : Prop := s[i]? = some true

/-- A step on sets of `size` places goes along a relation. -/
def Follows (size : Nat) (step : Marks → Marks) (R : Nat → Nat → Prop) : Prop :=
  ∀ s : Marks, s.length = size →
    (step s).length = size ∧ ∀ j, (step s).Has j ↔ ∃ i, s.Has i ∧ R i j

namespace Follows

variable {size : Nat} {f g step : Marks → Marks} {R S : Nat → Nat → Prop}

theorem congr (h : Follows size step R) (hRS : ∀ i j, i < size → (R i j ↔ S i j)) :
    Follows size step S := by
  intro s hs
  refine ⟨(h s hs).1, fun j => ((h s hs).2 j).trans (exists_congr fun i => ?_)⟩
  refine and_congr_right fun hi => hRS i j ?_
  rw [← hs]
  exact (List.getElem?_eq_some_iff.mp hi).1

theorem stay : Follows size (fun s => s) fun i j => i = j :=
  fun s hs => ⟨hs, fun j => by simp⟩

theorem comp (hf : Follows size f R) (hg : Follows size g S) :
    Follows size (fun s => g (f s)) fun i k => ∃ j, R i j ∧ S j k := by
  intro s hs
  obtain ⟨hlength, hmem⟩ := hf s hs
  refine ⟨(hg _ hlength).1, fun k => ?_⟩
  rw [(hg _ hlength).2]
  constructor
  · rintro ⟨j, hj, hjk⟩
    obtain ⟨i, hi, hij⟩ := (hmem j).mp hj
    exact ⟨i, hi, j, hij, hjk⟩
  · rintro ⟨i, hi, j, hij, hjk⟩
    exact ⟨j, (hmem j).mpr ⟨i, hi, hij⟩, hjk⟩

theorem union (hf : Follows size f R) (hg : Follows size g S) :
    Follows size (fun s => (f s).union (g s)) fun i j => R i j ∨ S i j := by
  intro s hs
  obtain ⟨hlength, hmem⟩ := hf s hs
  obtain ⟨hlength', hmem'⟩ := hg s hs
  refine ⟨by simp [Marks.union, hlength, hlength'], fun j => ?_⟩
  have hsplit : ((f s).union (g s)).Has j ↔ (f s).Has j ∨ (g s).Has j := by
    by_cases hj : j < size <;> simp [Marks.Has, Marks.union, hlength, hlength', hj]
  rw [hsplit, hmem, hmem', ← exists_or]
  exact exists_congr fun i => and_or_left.symm

theorem iterate (h : Follows size step R) (n : Nat) :
    Follows size (step^[n]) (Repeats R n) := by
  induction n with
  | zero => exact stay
  | succ n ih => exact h.comp ih

end Follows

/-- Stopping early changes nothing: a set that a step keeps stays as it is. -/
theorem times_eq_iterate (step : Marks → Marks) (n : Nat) (s : Marks) :
    Marks.times step n s = step^[n] s := by
  induction n generalizing s with
  | zero => rfl
  | succ n ih =>
      rw [Marks.times]
      split
      · next h =>
        rw [Function.iterate_fixed (eq_of_beq h)]
      · rw [ih, Function.iterate_succ_apply]

theorem within_eq_iterate (step : Marks → Marks) (n : Nat) (s : Marks) :
    Marks.within step n s = (fun s => s.union (step s))^[n] s := by
  induction n generalizing s with
  | zero => rfl
  | succ n ih =>
      rw [Marks.within]
      split
      · next h =>
        rw [Function.iterate_fixed (eq_of_beq h)]
      · rw [ih, Function.iterate_succ_apply]

/-! ## The run of an expression -/

/-- No repetition in the expression asks for more copies than it allows. -/
def Proper : Regex → Prop
  | .seq r s | .alt r s => r.Proper ∧ s.Proper
  | .rep least most r => (∀ bound ∈ most, least ≤ bound) ∧ r.Proper
  | _ => True

theorem follows_advance (text : List Char) (accepts : Char → Bool) :
    Follows (text.length + 1) (Marks.advance accepts text) (Spans text (.one accepts)) := by
  intro s hs
  refine ⟨by simp [Marks.advance, hs], fun j => ?_⟩
  simp only [spans_one]
  cases j with
  | zero => simp [Marks.advance, Marks.Has]
  | succ j =>
      simp only [Marks.advance, Marks.Has, List.getElem?_cons_succ, List.getElem?_zipWith,
        Nat.add_right_cancel_iff]
      constructor
      · intro h
        cases hmark : s[j]? with
        | none => simp [hmark] at h
        | some mark =>
            cases hc : text[j]? with
            | none => simp [hmark, hc] at h
            | some c =>
                obtain ⟨rfl, haccepts⟩ : mark = true ∧ accepts c = true := by
                  simpa [hmark, hc] using h
                exact ⟨j, hmark, rfl, c, hc, haccepts⟩
      · rintro ⟨i, hmark, rfl, c, hc, haccepts⟩
        simp [hmark, hc, haccepts]

theorem length_neighbours (before : Option Char) (text : List Char) :
    (neighbours before text).length = text.length + 1 := by
  induction text generalizing before with
  | nil => rfl
  | cons c cs ih => simp [neighbours, ih]

theorem getElem?_neighbours (before : Option Char) (text : List Char) {i : Nat}
    (hi : i ≤ text.length) :
    (neighbours before text)[i]? = some ((text.take i).getLast?.or before, text[i]?) := by
  induction text generalizing before i with
  | nil =>
      obtain rfl : i = 0 := by simpa using hi
      rfl
  | cons c cs ih =>
      cases i with
      | zero => simp [neighbours]
      | succ i =>
          rw [neighbours, List.getElem?_cons_succ, ih (some c) (by simpa using hi)]
          cases htake : cs.take i with
          | nil => simp [htake]
          | cons d ds => simp [htake, List.getLast?_cons]

theorem follows_filter (text : List Char) (holds : Option Char → Option Char → Bool) :
    Follows (text.length + 1) (Marks.filter holds text) (Spans text (.look holds)) := by
  intro s hs
  refine ⟨by simp [Marks.filter, hs, length_neighbours], fun j => ?_⟩
  simp only [spans_look]
  have hmark : (Marks.filter holds text s).Has j ↔
      s.Has j ∧ j ≤ text.length ∧ holds (text.take j).getLast? text[j]? = true := by
    by_cases hj : j ≤ text.length
    · rw [Marks.filter, Marks.Has, List.getElem?_zipWith, getElem?_neighbours _ _ hj]
      cases hmark : s[j]? with
      | none => simp [Marks.Has, hmark]
      | some mark => simp [Marks.Has, hmark, hj]
    · have hlength : (Marks.filter holds text s).length = text.length + 1 := by
        simp [Marks.filter, hs, length_neighbours]
      rw [Marks.Has, List.getElem?_eq_none (by omega)]
      simp [hj]
  rw [hmark]
  constructor
  · rintro ⟨hs, h⟩
    exact ⟨j, hs, rfl, h⟩
  · rintro ⟨i, hs, rfl, h⟩
    exact ⟨hs, h⟩

/-- **A repetition is run far enough**: first the copies that are needed, then as many more
as are allowed or can lead anywhere. -/
theorem follows_rep {text : List Char} {least : Nat} {most : Option Nat} {r : Regex}
    (hmost : ∀ bound ∈ most, least ≤ bound)
    (h : Follows (text.length + 1) (run text r) (Spans text r)) :
    Follows (text.length + 1) (run text (.rep least most r)) (Spans text (.rep least most r)) := by
  have hrounds : ∀ rounds, Follows (text.length + 1)
      (fun s => Marks.within (run text r) rounds (Marks.times (run text r) least s))
      fun i j => ∃ u, Repeats (Spans text r) least i u ∧ ∃ k ≤ rounds,
        Repeats (Spans text r) k u j := by
    intro rounds
    simp only [times_eq_iterate, within_eq_iterate, ← repeats_or_eq]
    exact (h.iterate least).comp ((Follows.stay.union h).iterate rounds)
  refine (hrounds _).congr fun i j hi => ?_
  rw [spans_rep]
  constructor
  · rintro ⟨u, hleast, k, hk, hmore⟩
    refine ⟨by omega, least + k, by omega, fun bound hbound => ?_,
      repeats_add.mpr ⟨u, hleast, hmore⟩⟩
    have hfits := hmost bound hbound
    rw [Option.mem_def.mp hbound] at hk
    simp only at hk
    omega
  · rintro ⟨-, n, hleast, hn, hall⟩
    obtain ⟨k, rfl⟩ := Nat.exists_eq_add_of_le hleast
    obtain ⟨u, hneeded, hmore⟩ := repeats_add.mp hall
    cases most with
    | some bound => exact ⟨u, hneeded, k, Nat.le_sub_of_add_le' (hn bound rfl), hmore⟩
    | none =>
        have hend : Spans text (copies r (least + k)) i j := spans_copies.mpr ⟨by omega, hall⟩
        have hj := hend.le_length
        obtain ⟨k', hk', hfew⟩ := repeats_bounded (fun _ _ => Spans.le) hmore
        refine ⟨u, hneeded, k', ?_, hfew⟩
        show k' ≤ text.length + 1
        omega

/-- **The run of an expression goes along its matches.** -/
theorem follows_run (text : List Char) {r : Regex} (h : r.Proper) :
    Follows (text.length + 1) (run text r) (Spans text r) := by
  induction r with
  | empty => exact Follows.stay.congr fun i j hi => by rw [spans_empty]; omega
  | one accepts => exact follows_advance text accepts
  | look holds => exact follows_filter text holds
  | seq r s ihr ihs =>
      exact ((ihr h.1).comp (ihs h.2)).congr fun i j _ => spans_seq.symm
  | alt r s ihr ihs =>
      exact ((ihr h.1).union (ihs h.2)).congr fun i j _ => spans_alt.symm
  | rep least most r ih => exact follows_rep h.1 (ih h.2)

/-- **Whether an expression matches somewhere** is found out by its run. -/
theorem isMatch_iff {r : Regex} (h : r.Proper) (text : String) :
    r.isMatch text = true ↔
      ∃ l m rest, text.toList = l ++ (m ++ rest) ∧ Matches r l.reverse m rest := by
  obtain ⟨-, hrun⟩ := follows_run text.toList h (List.replicate (text.toList.length + 1) true)
    (by simp)
  have hany : r.isMatch text = true ↔
      ∃ j, (run text.toList r (List.replicate (text.toList.length + 1) true)).Has j := by
    rw [isMatch, List.any_eq_true]
    constructor
    · rintro ⟨mark, hmark, rfl⟩
      exact List.mem_iff_getElem?.mp hmark
    · exact fun hmark => ⟨true, List.mem_iff_getElem?.mpr hmark, rfl⟩
  rw [hany]
  constructor
  · rintro ⟨j, hj⟩
    obtain ⟨i, -, l, m, rest, htext, -, -, hmatch⟩ := (hrun j).mp hj
    exact ⟨l, m, rest, htext, hmatch⟩
  · rintro ⟨l, m, rest, htext, hmatch⟩
    refine ⟨(l ++ m).length, (hrun _).mpr ⟨l.length, ?_, l, m, rest, htext, rfl, rfl, hmatch⟩⟩
    rw [Marks.Has, List.getElem?_replicate, if_pos]
    rw [htext]
    simp only [List.length_append]
    omega

end Expectation.Regex
