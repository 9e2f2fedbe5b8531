import Expectation.Proofs.Placeholder.Marking

/-!
# Sentinels that are not found

The search for sentinels may be used on any text, not only on the text in which the
placeholders were replaced: a reader of documents glues texts together, and decodes
them.  What the search takes for plain text may then hold a sentinel that was handed
out.  But this happens in one way only.  Right in front of the sentinel stand all but
the last characters of another front, and these are passed over together with the
underscore that the sentinel begins with.

A sentinel that is found becomes the placeholder again when a text is restored, and
in the restored text too sentinels only stand behind such a piece of a front.

## Main results

* `hidden_of_mem_pieces`: what plain text among the pieces of a text can hold.
* `Substitution.hidden_restore`: what a restored text can hold.
* `lacks_of_mem_expressionsOf`: an expression is a part of the raw text.
-/

namespace Expectation.Placeholder

open Text (Lacks)

variable {count i keep : Nat} {run cs : List Char}

/-- Sentinels that were handed out stand in a text only right behind all but the last
character of a front. -/
def Hidden (count : Nat) (cs : List Char) : Prop :=
  ∀ i < count, ∀ a b, cs = a ++ sentinel i ++ b → "__MATCHER".toList <:+ a

/-! ## Searching -/

/-- Plain text at the front of the tokens of a text is at its front. -/
theorem prefix_of_prefix_tokenize (h : run.map .char <+: tokenize count 0 keep cs) :
    run <+: cs := by
  induction run generalizing keep cs with
  | nil => exact List.nil_prefix
  | cons c run ih =>
      cases cs with
      | nil =>
          rw [tokenize_nil] at h
          exact absurd (List.prefix_nil.mp h) (List.cons_ne_nil _ _)
      | cons d cs =>
          obtain ⟨i, passed, hfound⟩ | ⟨next, hpassed⟩ := tokenize_cons count keep d cs
          · rw [hfound] at h
            exact absurd (List.cons_prefix_cons.mp h).1 (by simp)
          · rw [hpassed] at h
            obtain ⟨hc, hrest⟩ := List.cons_prefix_cons.mp h
            exact List.cons_prefix_cons.mpr ⟨Token.char.inj hc, ih hrest⟩

/-- A sentinel that stands at the front of a text is found there. -/
theorem not_prefix_tokenize (hi : i < count) :
    ¬ (sentinel i).map .char <+: tokenize count 0 0 cs := by
  intro h
  obtain ⟨rest, rfl⟩ := prefix_of_prefix_tokenize h
  obtain ⟨c, tail, hcons⟩ := List.exists_cons_of_ne_nil (sentinel_ne_nil i)
  rw [tokenize_sentinel hi, hcons] at h
  exact absurd (List.cons_prefix_cons.mp h).1 (by simp)

/-- In plain text at the front of the tokens of a text a sentinel is hidden, unless it
begins where the text is kept without a search. -/
theorem suffix_of_prefix_tokenize (hi : i < count) {a : List Char} (hkeep : keep ≤ a.length)
    (h : (a ++ sentinel i).map .char <+: tokenize count 0 keep cs) :
    "__MATCHER".toList <:+ a := by
  induction cs generalizing a keep with
  | nil =>
      have hnil : a ++ sentinel i = [] := List.prefix_nil.mp (prefix_of_prefix_tokenize h)
      exact absurd (List.append_eq_nil_iff.mp hnil).2 (sentinel_ne_nil i)
  | cons c cs ih =>
      cases a with
      | nil =>
          obtain rfl : keep = 0 := Nat.le_zero.mp hkeep
          exact absurd h (not_prefix_tokenize hi)
      | cons d a =>
          have htail : ∀ next, next ≤ a.length →
              (d :: a ++ sentinel i).map .char <+: .char c :: tokenize count 0 next cs →
                "__MATCHER".toList <:+ d :: a :=
            fun next hnext hcons =>
              (ih hnext (List.cons_prefix_cons.mp hcons).2).trans (List.suffix_cons d a)
          cases keep with
          | succ keep => exact htail keep (Nat.le_of_succ_le_succ hkeep) h
          | zero =>
              have htext := prefix_of_prefix_tokenize h
              rw [tokenize] at h
              split at h
              · next hfront =>
                split at h
                · exact absurd (List.cons_prefix_cons.mp h).1 (by simp)
                · by_cases hlong : sentinelFront.length - 1 ≤ a.length
                  · exact htail _ hlong h
                  · -- the front ends in the sentinel
                    have hlength : (d :: a).length < sentinelFront.length := by
                      rw [List.length_cons]
                      omega
                    have hreaches : sentinelFront <+: d :: a ++ (sentinel i ++ []) := by
                      rw [List.append_nil]
                      refine List.prefix_of_prefix_length_le
                        (List.isPrefixOf_iff_prefix.mp hfront) htext ?_
                      rw [List.length_append]
                      exact (sentinelFront_isPrefix i).length_le.trans (Nat.le_add_left _ _)
                    exact (eq_of_front_overlap (List.cons_ne_nil d a) hlength hreaches).symm ▸
                      List.suffix_refl _
              · exact htail 0 (Nat.zero_le _) h

theorem hidden_of_prefix_tokenize (h : run.map .char <+: tokenize count 0 0 cs) :
    Hidden count run := by
  rintro i hi a b rfl
  refine suffix_of_prefix_tokenize hi (Nat.zero_le _) (List.IsPrefix.trans ?_ h)
  exact (List.prefix_append (a ++ sentinel i) b).map _

/-! ## Runs between sentinels -/

/-- Behind a sentinel the search begins anew. -/
theorem eq_tokenize_of_mark {drop : Nat} {front rest : List Token}
    (h : tokenize count drop keep cs = front ++ .mark i :: rest) :
    ∃ cs', rest = tokenize count 0 0 cs' := by
  induction cs generalizing drop keep front with
  | nil =>
      rw [tokenize_nil] at h
      exact absurd h.symm (by simp)
  | cons c cs ih =>
      cases drop with
      | succ drop => exact ih h
      | zero =>
          obtain ⟨j, passed, hfound⟩ | ⟨next, hpassed⟩ := tokenize_cons count keep c cs
          · rw [hfound] at h
            cases front with
            | nil => exact ⟨_, (List.cons.inj h).2.symm.trans (tokenize_drop count passed cs)⟩
            | cons token front => exact ih (List.cons.inj h).2
          · rw [hpassed] at h
            cases front with
            | nil => cases h
            | cons token front => exact ih (List.cons.inj h).2

/-- Tokens are plain text up to a sentinel or to their end. -/
theorem exists_run (ts : List Token) : ∃ run : List Char, ts = run.map .char ∨
    ∃ i rest, ts = run.map .char ++ .mark i :: rest := by
  induction ts with
  | nil => exact ⟨[], .inl rfl⟩
  | cons token ts ih =>
      cases token with
      | mark i => exact ⟨[], .inr ⟨i, ts, rfl⟩⟩
      | char c =>
          obtain ⟨run, rfl | ⟨i, rest, rfl⟩⟩ := ih
          · exact ⟨c :: run, .inl rfl⟩
          · exact ⟨c :: run, .inr ⟨i, rest, rfl⟩⟩

/-- **A text is read in runs between sentinels**, in which others may be hidden. -/
theorem tokenize_induction {motive : List Token → Prop}
    (last : ∀ run, Hidden count run → motive (run.map .char))
    (mark : ∀ run i rest, Hidden count run → motive rest →
      motive (run.map .char ++ .mark i :: rest))
    (cs : List Char) : motive (tokenize count 0 0 cs) := by
  generalize hts : tokenize count 0 0 cs = ts
  induction hn : ts.length using Nat.strong_induction_on generalizing cs ts with
  | _ n ih =>
      have hidden : ∀ run : List Char, run.map .char <+: ts → Hidden count run :=
        fun run hrun => hidden_of_prefix_tokenize (hts.symm ▸ hrun)
      obtain ⟨run, rfl | ⟨i, rest, rfl⟩⟩ := exists_run ts
      · exact last run (hidden run (List.prefix_refl _))
      · obtain ⟨cs', hrest⟩ := eq_tokenize_of_mark hts
        have hless : rest.length < n := by
          rw [← hn, List.length_append, List.length_cons]
          omega
        exact mark run i rest (hidden run (List.prefix_append _ _))
          (ih rest.length hless cs' rest hrest.symm rfl)

/-! ## Pieces -/

/-- Plain text up to a sentinel or to the end is one piece. -/
theorem pieces_run (hrun : run ≠ []) {rest : List Token}
    (hrest : ∀ c ts, rest ≠ .char c :: ts) :
    pieces (run.map .char ++ rest) = .literal run :: pieces rest := by
  induction run with
  | nil => exact absurd rfl hrun
  | cons c run ih =>
      rw [List.map_cons, List.cons_append, pieces]
      by_cases hne : run = []
      · subst hne
        cases rest with
        | nil => rfl
        | cons token rest =>
            cases token with
            | char d => exact absurd rfl (hrest d rest)
            | mark i => rfl
      · rw [ih hne]

/-- **Plain text among the pieces of a text holds only hidden sentinels.** -/
theorem hidden_of_mem_pieces (h : .literal run ∈ pieces (tokenize count 0 0 cs)) :
    Hidden count run := by
  have hmem : ∀ (run' : List Char) rest, (∀ c ts, rest ≠ .char c :: ts) →
      .literal run ∈ pieces (run'.map .char ++ rest) → run = run' ∨ .literal run ∈ pieces rest := by
    intro run' rest hrest hpiece
    by_cases hne : run' = []
    · exact .inr (by simpa [hne] using hpiece)
    · rw [pieces_run hne hrest] at hpiece
      exact (List.mem_cons.mp hpiece).imp Piece.literal.inj id
  refine tokenize_induction (motive := fun ts => .literal run ∈ pieces ts → Hidden count run)
    ?_ ?_ cs h
  · intro run' hrun' h
    rw [← List.append_nil (run'.map _)] at h
    rcases hmem run' [] (by simp) h with rfl | h
    · exact hrun'
    · exact absurd h List.not_mem_nil
  · intro run' i rest hrun' ih h
    rcases hmem run' _ (by simp) h with rfl | h
    · exact hrun'
    · exact ih ((List.mem_cons.mp h).resolve_left (by simp))

/-! ## Restored text -/

theorem hidden_of_lacks (h : Lacks sentinelFront cs) : Hidden count cs := by
  rintro i - a b rfl
  refine absurd ?_ h
  exact (sentinelFront_isPrefix i).isInfix.trans ⟨a, b, rfl⟩

/-- A character that no sentinel has keeps texts apart. -/
theorem hidden_append_cons {xs ys : List Char} {c : Char} (hc : ∀ i, c ∉ sentinel i)
    (hxs : Hidden count xs) (hys : Hidden count ys) : Hidden count (xs ++ c :: ys) := by
  intro i hi a b h
  have hinside : ∀ front back, sentinel i ≠ front ++ c :: back := by
    intro front back heq
    exact hc i (heq ▸ List.mem_append_right _ List.mem_cons_self)
  rcases List.append_eq_append_iff.mp h with ⟨t, ht, hback⟩ | ⟨t, rfl, -⟩
  · cases t with
    | nil => exact hxs i hi a [] (by rw [List.append_nil, ht, List.append_nil])
    | cons d t =>
        obtain ⟨rfl, rfl⟩ := List.cons.inj hback
        rcases List.append_eq_append_iff.mp ht with ⟨u, rfl, hu⟩ | ⟨u, rfl, hu⟩
        · exact absurd hu (hinside u t)
        · cases u with
          | nil => exact absurd hu.symm (hinside [] t)
          | cons d u =>
              obtain ⟨rfl, rfl⟩ := List.cons.inj hu
              have hsuffix := hys i hi u b rfl
              exact hsuffix.trans ((List.suffix_cons _ u).trans (List.suffix_append _ _))
  · exact hxs i hi a t (by rw [List.append_assoc])

theorem brace_not_mem_sentinel (i : Nat) : '\x7B' ∉ sentinel i ∧ '\x7D' ∉ sentinel i :=
  ⟨fun h => absurd (of_mem_sentinel h) (by decide),
    fun h => absurd (of_mem_sentinel h) (by decide)⟩

/-- A placeholder between texts keeps them apart. -/
theorem hidden_append_brace {xs ys : List Char} {e : String} (he : Lacks sentinelFront e.toList)
    (hxs : Hidden count xs) (hys : Hidden count ys) :
    Hidden count (xs ++ ((Matcher.brace e).toList ++ ys)) := by
  have hopen : ∀ i, '\x7B' ∉ sentinel i := fun i => (brace_not_mem_sentinel i).1
  have hclose : ∀ i, '\x7D' ∉ sentinel i := fun i => (brace_not_mem_sentinel i).2
  have hnil : Hidden count [] := hidden_of_lacks (by decide)
  have htext : (Matcher.brace e).toList ++ ys =
      '\x7B' :: ([] ++ '\x7B' :: (e.toList ++ '\x7D' :: ([] ++ '\x7D' :: ys))) := by
    simp [Matcher.brace]
  rw [htext]
  exact hidden_append_cons hopen hxs (hidden_append_cons hopen hnil
    (hidden_append_cons hclose (hidden_of_lacks he) (hidden_append_cons hclose hnil hys)))

/-! ## Expressions -/

theorem infix_of_inner? {inner : List Char} (h : inner? cs = some inner) : inner <:+: cs := by
  obtain ⟨rest, rfl⟩ := eq_of_inner? h
  exact ⟨['\x7B', '\x7B'], '\x7D' :: '\x7D' :: rest, by simp⟩

theorem trim_within (cs : List Char) : Text.trim cs <:+: cs := by
  have hend : ∀ ds : List Char, Text.trimEnd ds <+: ds := by
    intro ds
    have hsuffix := List.reverse_prefix.mpr (List.dropWhile_suffix Text.isBlank (l := ds.reverse))
    rwa [List.reverse_reverse] at hsuffix
  exact (hend _).isInfix.trans (List.dropWhile_suffix Text.isBlank).isInfix

/-- **An expression is a part of the raw text.** -/
theorem infix_of_mem_scan {left : Nat} {context : ScanContext} {e raw : List Char}
    {quoted : Bool} (h : .placeholder e quoted ∈ scan left context raw) : e <:+: raw := by
  induction raw generalizing left context with
  | nil =>
      have hnil : scan left context [] = [] := by cases left <;> rfl
      exact absurd (hnil ▸ h) List.not_mem_nil
  | cons c raw ih =>
      have htail := fun left context (h : .placeholder e quoted ∈ scan left context raw) =>
        (ih h).trans (List.suffix_cons c raw).isInfix
      cases left with
      | succ left => exact htail left context h
      | zero =>
          rw [scan] at h
          split at h
          · next inner hinner =>
            rcases List.mem_cons.mp h with heq | h
            · obtain ⟨rfl, -⟩ := Segment.placeholder.inj heq
              split at hinner
              · contradiction
              · exact (trim_within inner).trans (infix_of_inner? hinner)
            · exact htail _ _ h
          · exact htail _ _ ((List.mem_cons.mp h).resolve_left (by simp))

end Expectation.Placeholder

namespace Expectation.Substitution

open Placeholder
open Text (Lacks)

/-- What a raw text lacks, its expressions lack. -/
theorem lacks_expression {needle : List Char} (hne : needle ≠ []) (context : ScanContext)
    {raw : String} (h : Lacks needle raw.toList) (i : Nat) :
    Lacks needle ((ofText context raw).expression i).toList := by
  unfold expression
  cases he : (ofText context raw).expressions[i]? with
  | none => exact fun hnil => hne (List.infix_nil.mp hnil)
  | some e =>
      obtain ⟨segment, hmem, hsegment⟩ := List.mem_filterMap.mp (List.mem_of_getElem? he)
      cases segment with
      | char c => contradiction
      | placeholder inner quoted =>
          obtain rfl := Option.some.inj hsegment
          rw [Option.getD_some, String.toList_ofList]
          exact h.of_infix (infix_of_mem_scan hmem)

/-- **A restored text holds only hidden sentinels** if no expression holds the front of
one. -/
theorem hidden_restore {s : Substitution}
    (h : ∀ i, Lacks sentinelFront (s.expression i).toList) (text : String) :
    Hidden s.expressions.length (s.restore text).toList := by
  have hwrite : ∀ write : Token → List Char, (∀ c, write (.char c) = [c]) →
      (∀ i, write (.mark i) = (Matcher.brace (s.expression i)).toList) →
        Hidden s.expressions.length ((s.tokens text).flatMap write) := by
    intro write hchar hmark
    have hchars : ∀ run : List Char, (run.map .char).flatMap write = run := by
      intro run
      simp [List.flatMap_map, hchar]
    refine tokenize_induction
      (motive := fun ts => Hidden s.expressions.length (ts.flatMap write)) ?_ ?_ text.toList
    · intro run hrun
      rw [hchars]
      exact hrun
    · intro run i rest hrun ih
      rw [List.flatMap_append, List.flatMap_cons, hchars, hmark]
      exact hidden_append_brace (h i) hrun ih
  rw [restore, String.toList_ofList]
  exact hwrite _ (fun _ => rfl) fun _ => rfl

end Expectation.Substitution
