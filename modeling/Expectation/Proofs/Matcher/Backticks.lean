import Expectation.Proofs.Matcher.Rereading

/-!
# Patterns with backticks

An expression may give its pattern between backticks or as a quoted value.  The
expression that is written always has backticks, and between them nothing can be
escaped.  So a pattern is read back exactly if it holds no backtick: one given
between backticks never does, but a quoted one can.

## Main results

* `tickFree_of_ticked`: what is read from behind a backtick holds none.
* `rereads_regex_iff`: the patterns that are read back.
* `rereads_regex_ticked`: a quoted pattern that is not.
-/

namespace Expectation.Matcher

/-! ## Patterns from between backticks -/

theorem not_mem_of_backticked? {cs source : List Char} (h : backticked? cs = some source) :
    '\x60' ∉ source := by
  unfold backticked? at h
  split at h
  · next rest =>
      split at h
      · next c inner _ _ htake _ =>
          cases h
          intro hmem
          rw [← htake] at hmem
          have hother := List.all_eq_true.mp List.all_takeWhile _ hmem
          simp at hother
      · exact absurd h (by simp)
  · exact absurd h (by simp)

/-- Trimming gaps leaves what a text begins with, if that is no gap. -/
theorem exists_trimGaps_cons {c : Char} (hc : isGap c = false) (cs : List Char) :
    ∃ ds, trimGaps (c :: cs) = c :: ds := by
  have hkeep : skipGap (c :: cs) = c :: cs := List.dropWhile_cons_of_neg (by simp [hc])
  have hfirst : [c].dropWhile isGap = [c] := List.dropWhile_cons_of_neg (by simp [hc])
  rw [trimGaps, hkeep, List.reverse_cons, List.dropWhile_append]
  split
  · exact ⟨[], by rw [hfirst, List.reverse_singleton]⟩
  · exact ⟨_, by rw [List.reverse_append, List.reverse_singleton, List.singleton_append]⟩

/-- Behind a backtick there are no quoted values. -/
theorem firstArgument?_tick (cs : List Char) : firstArgument? ('\x60' :: cs) = none := by
  obtain ⟨ds, hds⟩ := exists_trimGaps_cons (by decide : isGap '\x60' = false) cs
  have hplain : ['\\', '"'].isPrefixOf ('\x60' :: ds) = false := rfl
  have hnone : arguments ('\x60' :: cs) = [] := by
    simp only [arguments, hds, hplain, Bool.false_eq_true, if_false]
    rfl
  rw [firstArgument?, hnone]

/-- **Behind a backtick every pattern is free of backticks.** -/
theorem tickFree_of_ticked {expression : String} {cs : List Char} {p : Pattern}
    (h : readPattern expression ('\x60' :: cs) = .ok (.regex p)) : '\x60' ∉ p.source.toList := by
  obtain ⟨q, hq, hticked | ⟨-, hfirst⟩⟩ := exists_pattern_of_readPattern h
  · cases hq
    exact not_mem_of_backticked? hticked
  · rw [firstArgument?_tick] at hfirst
    exact absurd hfirst (by simp)

/-! ## Reading the written expression -/

/-- The argument of a pattern begins with a backtick. -/
def InTicks (text : String) : Prop :=
  ∃ rest, afterKeyword? "regex" (Text.trim text.toList) = some ('\x60' :: rest)

theorem tickFree_of_inTicks {text : String} {p : Pattern} (h : ofExpression text = .ok (.regex p))
    (hticks : InTicks text) : '\x60' ∉ p.source.toList := by
  obtain ⟨rest, hrest⟩ := hticks
  rcases ofExpression_cases h with hkeyword | ⟨other, hother, hread⟩ | ⟨hnone, -⟩
  · exact absurd hkeyword (by simp [keywords])
  · rw [hrest] at hother
    cases hother
    exact tickFree_of_ticked hread
  · exact absurd (hrest.symm.trans hnone) (by simp)

/-- A pattern that is read back holds no backtick. -/
theorem tickFree_of_reread {p : Pattern}
    (h : ofExpression (Matcher.regex p).expression = .ok (.regex p)) :
    '\x60' ∉ p.source.toList := by
  rw [ofExpression_ticks (toList_expression_regex p)] at h
  exact tickFree_of_ticked h

/-- **Patterns are read back exactly if they hold no backtick.**  In particular those are that
were given between backticks. -/
theorem rereads_regex_iff {text : String} {p : Pattern} (h : ofExpression text = .ok (.regex p)) :
    (ofExpression (Matcher.regex p).expression = .ok (.regex p) ↔ '\x60' ∉ p.source.toList) ∧
      (InTicks text → ofExpression (Matcher.regex p).expression = .ok (.regex p)) := by
  have hback : '\x60' ∉ p.source.toList →
      ofExpression (Matcher.regex p).expression = .ok (.regex p) :=
    fun htick => ofExpression_expression (ofExpression_hasArgument h) htick
  constructor
  · exact ⟨tickFree_of_reread, hback⟩
  · intro hticks
    exact hback (tickFree_of_inTicks h hticks)

/-- An expression that is seen to give a pattern. -/
theorem exists_regex_of_any {text source : String}
    (h : (ofExpression text).toOption.any (fun
      | .regex p => p.source == source
      | _ => false) = true) :
    ∃ p, ofExpression text = .ok (.regex p) ∧ p.source = source := by
  cases hm : ofExpression text with
  | error e =>
      rw [hm] at h
      exact absurd h (by simp [Except.toOption])
  | ok m =>
      rw [hm] at h
      cases m with
      | regex p => exact ⟨p, rfl, by simpa [Except.toOption] using h⟩
      | _ => exact absurd h (by simp [Except.toOption])

/-- A quoted pattern without backticks, and one between backticks with a quotation mark. -/
theorem rereads_regex_iff_anchored :
    ∃ p q, ofExpression "regex \"^ab\"" = .ok (.regex p) ∧ '\x60' ∉ p.source.toList ∧
      ofExpression (Matcher.regex p).expression = .ok (.regex p) ∧
      ofExpression "regex \x60a\"b\x60" = .ok (.regex q) ∧ InTicks "regex \x60a\"b\x60" ∧
      ofExpression (Matcher.regex q).expression = .ok (.regex q) := by
  obtain ⟨p, hp, hsource⟩ : ∃ p, ofExpression "regex \"^ab\"" = .ok (.regex p) ∧
      p.source = "^ab" := exists_regex_of_any (by decide +kernel)
  obtain ⟨q, hq, -⟩ : ∃ q, ofExpression "regex \x60a\"b\x60" = .ok (.regex q) ∧
      q.source = "a\"b" := exists_regex_of_any (by decide +kernel)
  have htick : '\x60' ∉ p.source.toList := by
    rw [hsource]
    decide
  have hticks : InTicks "regex \x60a\"b\x60" := ⟨"a\"b\x60".toList, by decide⟩
  exact ⟨p, q, hp, htick, (rereads_regex_iff hp).1.mpr htick, hq, hticks,
    (rereads_regex_iff hq).2 hticks⟩

/-- **A backtick ends the pattern that is written.**  A quoted pattern can hold one, and then
its expression does not denote it. -/
theorem rereads_regex_ticked :
    ∃ p, ofExpression "regex \"a\x60b\"" = .ok (.regex p) ∧
      ofExpression (Matcher.regex p).expression ≠ .ok (.regex p) := by
  obtain ⟨p, hp, hsource⟩ : ∃ p, ofExpression "regex \"a\x60b\"" = .ok (.regex p) ∧
      p.source = "a\x60b" := exists_regex_of_any (by decide +kernel)
  have htick : '\x60' ∈ p.source.toList := by
    rw [hsource]
    decide
  exact ⟨p, hp, fun hread => tickFree_of_reread hread htick⟩

end Expectation.Matcher
