import Mathlib.Computability.Language
import Expectation.Regex.Look
import Expectation.Proofs.Regex.Places

/-!
# The language of a regular expression

An expression that asks nothing about the characters around it matches the texts of a
language, wherever they stand.  Its operators are those of languages: a sequence is a
product, and the three common repetitions are the texts of the language and nothing, any
number of them in a row, and at least one.

## Main results

* `matches_sequence_append`, `matches_choice`: several expressions in a row, or one of them.
* `Denotes.optional`, `Denotes.star`, `Denotes.plus`: repetitions.
* `Denotes.matches_between`: a sequence tied to both ends of a text.
-/

namespace Expectation.Regex

open Computability

/-! ## Sequences and choices -/

section Several

variable {r : Regex} {rs ss : List Regex} {l m rest : List Char}

theorem matches_sequence_cons :
    Matches (sequence (r :: rs)) l m rest ↔ Matches (.seq r (sequence rs)) l m rest := by
  cases rs with
  | nil => simp [sequence, matches_seq, matches_empty]
  | cons s rs => rfl

theorem matches_sequence_append : Matches (sequence (rs ++ ss)) l m rest ↔
    Matches (.seq (sequence rs) (sequence ss)) l m rest := by
  induction rs generalizing l m with
  | nil => simp [sequence, matches_seq, matches_empty]
  | cons r rs ih =>
      rw [List.cons_append, matches_sequence_cons, matches_seq, matches_seq]
      simp only [ih, matches_sequence_cons, matches_seq]
      constructor
      · rintro ⟨a, _, rfl, ha, b, c, rfl, hb, hc⟩
        exact ⟨a ++ b, c, by simp, ⟨a, b, rfl, by simpa using ha, hb⟩, by simpa using hc⟩
      · rintro ⟨_, c, rfl, ⟨a, b, rfl, ha, hb⟩, hc⟩
        exact ⟨a, b ++ c, by simp, by simpa using ha, b, c, rfl, hb, by simpa using hc⟩

theorem matches_choice :
    Matches (choice r rs) l m rest ↔ Matches r l m rest ∨ ∃ s ∈ rs, Matches s l m rest := by
  induction rs generalizing r with
  | nil => simp [choice]
  | cons s rs ih => simp only [choice, matches_alt, ih, List.exists_mem_cons_iff]

theorem proper_sequence : (sequence rs).Proper ↔ ∀ r ∈ rs, r.Proper := by
  induction rs with
  | nil => simp [sequence, Proper]
  | cons r rs ih =>
      cases rs with
      | nil => simp [sequence]
      | cons s rs => exact (and_congr_right fun _ => ih).trans List.forall_mem_cons.symm

theorem proper_choice : (choice r rs).Proper ↔ r.Proper ∧ ∀ s ∈ rs, s.Proper := by
  induction rs generalizing r with
  | nil => simp [choice]
  | cons s rs ih => rw [choice, Proper, ih, List.forall_mem_cons]

end Several

/-! ## The language of an expression -/

/-- The expression matches the texts of the language, whatever stands around them. -/
structure Denotes (r : Regex) (L : Language Char) : Prop where
  proper : r.Proper
  matches_iff : ∀ l m rest, Matches r l m rest ↔ m ∈ L

theorem mem_singleton {cs m : List Char} : m ∈ ({cs} : Language Char) ↔ m = cs :=
  Iff.rfl

/-- A text of a product is cut in two. -/
theorem mem_mul_iff {L M : Language Char} {m : List Char} :
    m ∈ L * M ↔ ∃ a b, m = a ++ b ∧ a ∈ L ∧ b ∈ M := by
  rw [Language.mem_mul]
  constructor
  · rintro ⟨a, ha, b, hb, rfl⟩
    exact ⟨a, b, rfl, ha, hb⟩
  · rintro ⟨a, b, rfl, ha, hb⟩
    exact ⟨a, ha, b, hb, rfl⟩

theorem mem_sum {Ls : List (Language Char)} {m : List Char} : m ∈ Ls.sum ↔ ∃ L ∈ Ls, m ∈ L := by
  induction Ls with
  | nil => simp [Language.notMem_zero]
  | cons L Ls ih => rw [List.sum_cons, Language.mem_add, ih, List.exists_mem_cons_iff]

/-- The texts with a property. -/
def texts (P : List Char → Prop) : Language Char := {m | P m}

theorem mem_texts {P : List Char → Prop} {m : List Char} : m ∈ texts P ↔ P m :=
  Iff.rfl

/-- The texts of one character that passes a test. -/
def letters (p : Char → Bool) : Language Char := texts fun m => ∃ c, m = [c] ∧ p c = true

theorem mem_letters {p : Char → Bool} {m : List Char} :
    m ∈ letters p ↔ ∃ c, m = [c] ∧ p c = true :=
  Iff.rfl

theorem mem_letters_pair {c d : Char} {m : List Char} :
    m ∈ letters (fun x => x == c || x == d) ↔ m = [c] ∨ m = [d] := by
  simp only [mem_letters, Bool.or_eq_true, beq_iff_eq]
  constructor
  · rintro ⟨_, rfl, rfl | rfl⟩
    · exact .inl rfl
    · exact .inr rfl
  · rintro (rfl | rfl)
    · exact ⟨c, rfl, .inl rfl⟩
    · exact ⟨d, rfl, .inr rfl⟩

/-- Any number of characters that pass a test. -/
theorem mem_kstar_letters {p : Char → Bool} {m : List Char} :
    m ∈ (letters p)∗ ↔ ∀ c ∈ m, p c = true := by
  rw [Language.mem_kstar]
  constructor
  · rintro ⟨parts, rfl, hparts⟩ c hc
    obtain ⟨part, hpart, hc⟩ := List.mem_flatten.mp hc
    obtain ⟨d, rfl, hd⟩ := hparts part hpart
    rwa [List.mem_singleton.mp hc]
  · intro h
    refine ⟨m.map fun c => [c], by simp [← List.flatMap_def], fun part hpart => ?_⟩
    obtain ⟨c, hc, rfl⟩ := List.mem_map.mp hpart
    exact ⟨c, rfl, h c hc⟩

/-- At least one character, each of which passes a test. -/
theorem mem_letters_mul_kstar {p : Char → Bool} {m : List Char} :
    m ∈ letters p * (letters p)∗ ↔ m ≠ [] ∧ ∀ c ∈ m, p c = true := by
  rw [mem_mul_iff]
  constructor
  · rintro ⟨_, rest, rfl, ⟨c, rfl, hc⟩, hrest⟩
    exact ⟨List.cons_ne_nil _ _, List.forall_mem_cons.mpr ⟨hc, mem_kstar_letters.mp hrest⟩⟩
  · rintro ⟨hne, hall⟩
    obtain ⟨c, rest, rfl⟩ := List.exists_cons_of_ne_nil hne
    obtain ⟨hc, hrest⟩ := List.forall_mem_cons.mp hall
    exact ⟨[c], rest, rfl, ⟨c, rfl, hc⟩, mem_kstar_letters.mpr hrest⟩

namespace Denotes

variable {r s : Regex} {L M : Language Char}

theorem empty : Denotes .empty 1 :=
  ⟨trivial, fun _ m _ => matches_empty.trans (Language.mem_one m).symm⟩

theorem one (p : Char → Bool) : Denotes (.one p) (letters p) :=
  ⟨trivial, fun _ _ _ => matches_one⟩

theorem seq (hr : Denotes r L) (hs : Denotes s M) : Denotes (.seq r s) (L * M) := by
  refine ⟨⟨hr.proper, hs.proper⟩, fun l m rest => ?_⟩
  simp only [matches_seq, mem_mul_iff, hr.matches_iff, hs.matches_iff]

/-! ## Repetitions -/

theorem copies (h : Denotes r L) (n : Nat) : Denotes (copies r n) (L ^ n) := by
  induction n with
  | zero => exact empty
  | succ n ih =>
      rw [pow_succ']
      exact h.seq ih

/-- A repetition matches as many texts of the language in a row as its bounds allow. -/
theorem rep (h : Denotes r L) {least : Nat} {most : Option Nat}
    (hmost : ∀ bound ∈ most, least ≤ bound) (hM : ∀ m, m ∈ M ↔
      ∃ n, least ≤ n ∧ (∀ bound ∈ most, n ≤ bound) ∧ m ∈ L ^ n) :
    Denotes (.rep least most r) M := by
  refine ⟨⟨hmost, h.proper⟩, fun l m rest => ?_⟩
  simp only [matches_rep, (h.copies _).matches_iff, hM]

theorem optional (h : Denotes r L) : Denotes (.rep 0 (some 1) r) (1 + L) := by
  refine h.rep (by simp) fun m => ?_
  rw [Language.mem_add]
  constructor
  · rintro (hm | hm)
    · exact ⟨0, by simp, by simp, by simpa using hm⟩
    · exact ⟨1, by simp, by simp, by simpa using hm⟩
  · rintro ⟨n, -, hn, hm⟩
    have hle : n ≤ 1 := hn 1 rfl
    obtain rfl | rfl : n = 0 ∨ n = 1 := by omega
    · exact .inl (by simpa using hm)
    · exact .inr (by simpa using hm)

theorem star (h : Denotes r L) : Denotes (.rep 0 none r) L∗ := by
  refine h.rep (by simp) fun m => ?_
  rw [Language.kstar_eq_iSup_pow, Language.mem_iSup]
  simp

theorem plus (h : Denotes r L) : Denotes (.rep 1 none r) (L * L∗) := by
  refine h.rep (by simp) fun m => ?_
  rw [Language.kstar_eq_iSup_pow, Language.mul_iSup, Language.mem_iSup]
  constructor
  · rintro ⟨n, hm⟩
    exact ⟨n + 1, by omega, by simp, by rwa [pow_succ']⟩
  · rintro ⟨n, hn, -, hm⟩
    obtain ⟨n, rfl⟩ := Nat.exists_eq_add_of_le' hn
    exact ⟨n, by rwa [← pow_succ']⟩

/-! ## Several expressions -/

theorem sequence_append {rs ss : List Regex} (hr : Denotes (sequence rs) L)
    (hs : Denotes (sequence ss) M) : Denotes (sequence (rs ++ ss)) (L * M) := by
  refine ⟨?_, fun l m rest => ?_⟩
  · rw [proper_sequence, List.forall_mem_append, ← proper_sequence, ← proper_sequence]
    exact ⟨hr.proper, hs.proper⟩
  · rw [matches_sequence_append]
    exact (hr.seq hs).matches_iff l m rest

theorem proper_between {rs : List Regex} (h : Denotes (sequence rs) L) :
    (sequence (.look Look.textStart.holds :: (rs ++ [.look Look.textEnd.holds]))).Proper := by
  rw [proper_sequence, List.forall_mem_cons, List.forall_mem_append, ← proper_sequence]
  exact ⟨trivial, h.proper, by simp [Proper]⟩

/-- **Between the ends of a text** a sequence matches the whole text or nothing. -/
theorem matches_between {rs : List Regex} (h : Denotes (sequence rs) L) {l m rest : List Char} :
    Matches (sequence (.look Look.textStart.holds :: (rs ++ [.look Look.textEnd.holds]))) l m rest ↔
      l = [] ∧ rest = [] ∧ m ∈ L := by
  rw [matches_sequence_cons, matches_seq]
  simp only [matches_sequence_append, matches_seq, sequence, matches_look, h.matches_iff]
  constructor
  · rintro ⟨_, _, rfl, ⟨rfl, hstart⟩, m, _, rfl, hm, rfl, hend⟩
    simp_all [Look.holds]
  · rintro ⟨rfl, rfl, hm⟩
    exact ⟨[], m, rfl, ⟨rfl, rfl⟩, m, [], by simp, hm, rfl, rfl⟩

end Denotes

end Expectation.Regex
