import Expectation.Json.Update
import Expectation.Proofs.Placeholder.Scanning
import Expectation.Proofs.Placeholder.Sentinels

/-!
# Filling in expressions

A tree is written with a sentinel in place of each matcher, and then the
sentinels are replaced one after the other, each at its first occurrence.  The
quotation mark before a sentinel keeps one from beginning earlier and reaching
into it, so the right one is replaced unless the text in front of it holds the
sentinel too, in a string of the document or in what has been filled in.

In that case the text goes astray: it has a brace where the right text has the
front of a sentinel.  No later step mends that, because there is no brace in a
sentinel.

## Main results

* `replaceFirst_append`: the first occurrence is where it should be.
* `Astray.fillSentinels`: what has gone astray stays so.
* `fillSentinels_spell_iff`: filling in the expressions writes the segments
  exactly if each sentinel is fresh.
-/

namespace Expectation.Json

open Placeholder
open Text (Lacks)

/-! ## The first occurrence -/

/-- A prefix does not reach behind a character that it does not have. -/
theorem prefix_of_prefix_append_cons {old a b : List Char} {c : Char} (hc : c ∉ old)
    (h : old <+: a ++ c :: b) : old <+: a := by
  induction a generalizing old with
  | nil =>
      cases old with
      | nil => exact List.nil_prefix
      | cons d old =>
          rw [List.nil_append, List.cons_prefix_cons] at h
          exact absurd (h.1 ▸ List.mem_cons_self) hc
  | cons e a ih =>
      cases old with
      | nil => exact List.nil_prefix
      | cons d old =>
          rw [List.cons_append, List.cons_prefix_cons] at h
          rw [List.cons_prefix_cons]
          exact ⟨h.1, ih (fun hmem => hc (List.mem_cons_of_mem d hmem)) h.2⟩

theorem replaceFirst_self (old new b : List Char) (hne : old ≠ []) :
    replaceFirst old new (old ++ b) = new ++ b := by
  obtain ⟨d, old, rfl⟩ := List.exists_cons_of_ne_nil hne
  have hbegin : (d :: old).isPrefixOf (d :: (old ++ b)) = true :=
    List.isPrefixOf_iff_prefix.mpr (List.prefix_append (d :: old) b)
  have hdrop : (d :: (old ++ b)).drop (d :: old).length = b := List.drop_left
  rw [List.cons_append, replaceFirst, if_pos hbegin, hdrop]

theorem replaceFirst_kept {old new cs : List Char} {c : Char} (h : ¬ old <+: c :: cs) :
    replaceFirst old new (c :: cs) = c :: replaceFirst old new cs := by
  rw [replaceFirst, if_neg fun hbegin => h (List.isPrefixOf_iff_prefix.mp hbegin)]

/-- **The first occurrence.**  A text that stands behind a character it does not
have, with no occurrence before, is replaced there. -/
theorem replaceFirst_append {old a : List Char} {c : Char} (new b : List Char)
    (hne : old ≠ []) (hc : c ∉ old) (ha : Lacks old a) :
    replaceFirst old new (a ++ c :: (old ++ b)) = a ++ c :: (new ++ b) := by
  induction a with
  | nil =>
      have hnot : ¬ old <+: c :: (old ++ b) := fun h =>
        hne (List.prefix_nil.mp (prefix_of_prefix_append_cons (a := []) hc h))
      rw [List.nil_append, List.nil_append, replaceFirst_kept hnot,
        replaceFirst_self _ _ _ hne]
  | cons d a ih =>
      have hnot : ¬ old <+: d :: (a ++ c :: (old ++ b)) := fun h =>
        ha (prefix_of_prefix_append_cons (a := d :: a) hc h).isInfix
      rw [List.cons_append, replaceFirst_kept hnot,
        ih (ha.of_infix (List.suffix_cons d a).isInfix)]
      rfl

/-! ## Going astray -/

/-- The text has a brace where the other one has the front of a sentinel; up to there they are
the same. -/
inductive Astray : List Char → List Char → Prop
  | here {text goal : List Char} : Astray ('\x7B' :: text) ('_' :: goal)
  | there {c : Char} {text goal : List Char} (h : Astray text goal) :
      Astray (c :: text) (c :: goal)

section Astray

variable {text goal : List Char}

theorem Astray.ne (h : Astray text goal) : text ≠ goal := by
  induction h with
  | here => simp
  | there h ih => simpa using ih

/-- An expression filled in for a sentinel in front of the text has a brace in its place. -/
theorem astray_of_begins {i : Nat} {c : Char} (h : sentinel i <+: c :: text) (e : String)
    (goal : List Char) :
    Astray (replaceFirst (sentinel i) (Matcher.brace e).toList (c :: text)) (c :: goal) := by
  obtain ⟨rest, hrest⟩ := h
  obtain ⟨back, hback⟩ := sentinelFront_isPrefix i
  have hfirst : c = '_' := by
    rw [← hback] at hrest
    exact (List.cons.inj hrest).1.symm
  have hbrace : (Matcher.brace e).toList = '\x7B' :: ("\x7B".toList ++ e.toList ++
      "\x7D\x7D".toList) := by
    simp [Matcher.brace, String.toList_append]
  rw [← hrest, replaceFirst_self _ _ _ (sentinel_ne_nil i), hbrace, hfirst]
  exact .here

/-- **Filling in does not mend a text.** -/
theorem Astray.replaceFirst (h : Astray text goal) (i : Nat) (e : String) :
    Astray (replaceFirst (sentinel i) (Matcher.brace e).toList text) goal := by
  induction h with
  | @here text goal =>
      have hnot : ¬ sentinel i <+: '\x7B' :: text := by
        intro hbegin
        have hmem : '\x7B' ∈ sentinel i := by
          obtain ⟨c, cs, hcons⟩ := List.exists_cons_of_ne_nil (sentinel_ne_nil i)
          rw [hcons] at hbegin ⊢
          rw [(List.cons_prefix_cons.mp hbegin).1]
          exact List.mem_cons_self
        exact absurd (of_mem_sentinel hmem) (by decide)
      rw [replaceFirst_kept hnot]
      exact .here
  | @there c text goal h ih =>
      by_cases hbegin : sentinel i <+: c :: text
      · exact astray_of_begins hbegin e goal
      · rw [replaceFirst_kept hbegin]
        exact .there ih

/-- What has gone astray stays so. -/
theorem Astray.fillSentinels (h : Astray text goal) (i : Nat) (expressions : List String) :
    Astray (fillSentinels i expressions text) goal := by
  induction expressions generalizing i text with
  | nil => exact h
  | cons e es ih => exact ih (h.replaceFirst i e) (i + 1)

/-- **A text goes astray** if the sentinel is found in a part that is as it should be. -/
theorem astray_replaceFirst {i : Nat} {front : List Char} (h : ¬ Lacks (sentinel i) front)
    (e : String) (text goal : List Char) :
    Astray (replaceFirst (sentinel i) (Matcher.brace e).toList (front ++ text))
      (front ++ goal) := by
  have hfound : sentinel i <:+: front := Decidable.not_not.mp h
  clear h
  induction front with
  | nil => exact absurd (List.infix_nil.mp hfound) (sentinel_ne_nil i)
  | cons c front ih =>
      rw [List.cons_append]
      by_cases hbegin : sentinel i <+: c :: (front ++ text)
      · exact astray_of_begins hbegin e (front ++ goal)
      · -- The sentinel stands further back in this part, so the search comes to it.
        rw [replaceFirst_kept hbegin]
        rcases List.infix_cons_iff.mp hfound with hfront | hwithin
        · exact absurd (hfront.trans (List.prefix_append (c :: front) text)) hbegin
        · exact .there (ih hwithin)

end Astray

/-! ## Filling in -/

/-- Segments whose placeholders stand behind quotation marks. -/
inductive Framed : List Segment → Prop
  | nil : Framed []
  | char {c : Char} {rest : List Segment} (h : Framed rest) : Framed (.char c :: rest)
  | mark {e : List Char} {rest : List Segment} (h : Framed rest) :
      Framed (.char '"' :: .placeholder e false :: rest)

theorem framed_chars {rest : List Segment} (h : Framed rest) (cs : List Char) :
    Framed (cs.map .char ++ rest) := by
  induction cs with
  | nil => exact h
  | cons c cs ih => exact .char ih

/-- **Fresh sentinels.**  What is written in front of a placeholder does not hold its sentinel.
The sentinels are counted from a number, and a text stands before the segments. -/
def Fresh (i : Nat) (before : List Char) (segments : List Segment) : Prop :=
  ∀ front e quoted back, segments = front ++ .placeholder e quoted :: back →
    Lacks (sentinel (i + (expressionsOf front).length)) (before ++ written front)

section Fresh

variable {i : Nat} {before : List Char} {segments rest : List Segment}

/-- Sentinels are fresh where none is written, whatever its number. -/
theorem fresh_of_lacks (h : Lacks sentinelFront (before ++ written segments)) :
    Fresh i before segments := by
  rintro front e quoted back rfl
  rw [written_append, ← List.append_assoc] at h
  exact (h.of_infix (List.prefix_append _ _).isInfix).of_needle (sentinelFront_isPrefix _).isInfix

theorem fresh_nil : Fresh i before [] := by
  intro front e quoted back h
  exact absurd h (by simp)

theorem fresh_char {c : Char} :
    Fresh i before (.char c :: rest) ↔ Fresh i (before ++ [c]) rest := by
  have hregroup (front : List Segment) :
      before ++ written (.char c :: front) = before ++ [c] ++ written front := by
    rw [List.append_assoc]
    rfl
  constructor
  · rintro h front e quoted back rfl
    rw [← hregroup]
    exact h (.char c :: front) e quoted back rfl
  · intro h front e quoted back hsplit
    cases front with
    | nil => exact absurd hsplit (by simp)
    | cons segment front =>
        obtain ⟨rfl, hrest⟩ := List.cons.inj hsplit
        rw [hregroup]
        exact h front e quoted back hrest

theorem written_placeholder (e : List Char) (quoted : Bool) (rest : List Segment) :
    written (.placeholder e quoted :: rest) =
      (Matcher.brace (String.ofList e)).toList ++ written rest := by
  simp [written, Matcher.brace, String.toList_append]

theorem fresh_placeholder {e : List Char} {quoted : Bool} :
    Fresh i before (.placeholder e quoted :: rest) ↔ Lacks (sentinel i) before ∧
      Fresh (i + 1) (before ++ (Matcher.brace (String.ofList e)).toList) rest := by
  have hregroup (front : List Segment) : before ++ written (.placeholder e quoted :: front) =
      before ++ (Matcher.brace (String.ofList e)).toList ++ written front := by
    rw [written_placeholder, List.append_assoc]
  have hcount (front : List Segment) :
      i + (expressionsOf (.placeholder e quoted :: front)).length =
        i + 1 + (expressionsOf front).length :=
    (Nat.succ_add_eq_add_succ i _).symm
  constructor
  · intro h
    constructor
    · have hfirst := h [] e quoted rest rfl
      rwa [written, List.append_nil] at hfirst
    · rintro front d quoted' back rfl
      rw [← hregroup, ← hcount]
      exact h (.placeholder e quoted :: front) d quoted' back rfl
  · rintro ⟨hfirst, h⟩ front d quoted' back hsplit
    cases front with
    | nil => rwa [written, List.append_nil]
    | cons segment front =>
        obtain ⟨rfl, hrest⟩ := List.cons.inj hsplit
        rw [hregroup, hcount]
        exact h front d quoted' back hrest

/-- **Filling in.**  Behind any text, the spelled segments become the written ones exactly if
the sentinels are fresh. -/
theorem fillSentinels_spell_iff (h : Framed segments) (i : Nat) (before : List Char) :
    fillSentinels i (expressionsOf segments) (before ++ spell i segments) =
        before ++ written segments ↔
      Fresh i before segments := by
  induction h generalizing i before with
  | nil => exact iff_of_true rfl fresh_nil
  | @char c rest h ih =>
      have hrest := ih i (before ++ [c])
      rw [List.append_assoc, List.append_assoc, ← fresh_char] at hrest
      exact hrest
  | @mark e rest h ih =>
      have hbehind (tail : List Char) : before ++ ['"'] ++ tail = before ++ '"' :: tail :=
        List.append_assoc before ['"'] tail
      have hwritten : written (.char '"' :: .placeholder e false :: rest) =
          '"' :: ((Matcher.brace (String.ofList e)).toList ++ written rest) := by
        rw [← written_placeholder e false]
        rfl
      have hspell : spell i (.char '"' :: .placeholder e false :: rest) =
          '"' :: (sentinel i ++ spell (i + 1) rest) :=
        rfl
      have hexpressions : expressionsOf (.char '"' :: .placeholder e false :: rest) =
          String.ofList e :: expressionsOf rest :=
        rfl
      rw [hspell, hwritten, hexpressions, fillSentinels, fresh_char, fresh_placeholder]
      by_cases hlacks : Lacks (sentinel i) (before ++ ['"'])
      · have hbefore : Lacks (sentinel i) before :=
          hlacks.of_infix (List.prefix_append _ _).isInfix
        rw [replaceFirst_append _ _ (sentinel_ne_nil i) (quote_not_mem_sentinel i) hbefore,
          ← hbehind (_ ++ spell (i + 1) rest), ← hbehind (_ ++ written rest), ← List.append_assoc,
          ← List.append_assoc _ _ (written rest), ih, and_iff_right hlacks]
      · have hastray := astray_replaceFirst hlacks (String.ofList e)
          (sentinel i ++ spell (i + 1) rest)
          ((Matcher.brace (String.ofList e)).toList ++ written rest)
        rw [hbehind, hbehind] at hastray
        refine iff_of_false ?_ fun hfresh => hlacks hfresh.1
        exact (hastray.fillSentinels (i + 1) (expressionsOf rest)).ne

end Fresh

end Expectation.Json
