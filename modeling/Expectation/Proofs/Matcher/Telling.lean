import Expectation.Proofs.Matcher.Rereading

/-!
# The expression of a matcher tells the matcher

Two rules are never written alike, and so the equality of matchers, which looks at kinds and
arguments, could as well look at what is shown of them.  The first letters of an expression tell patterns, lists and
rules without arguments from each other; a pattern stands between its backticks, whatever is in
it, and a list of strings is read back from its text unless it is empty, and then there is no
text.  Patterns with backticks are not read back, so reading alone does not tell all matchers.

## Main results

* `eq_of_quotes_eq`: a list of strings is told by its text.
* `expression_inj`: a matcher is told by its expression.
* `beq_iff_describe_eq`: matchers are equal exactly if they are described alike.
-/

namespace Expectation.Matcher

theorem quotes_ne_nil {values : List String} (h : values ≠ []) : quotes values ≠ [] := by
  obtain ⟨inner, hinner⟩ := quotes_eq_marks h
  simp [hinner]

/-- **A list of strings is told by its text.** -/
theorem eq_of_quotes_eq {values others : List String} (h : quotes values = quotes others) :
    values = others := by
  by_cases hvalues : values = []
  · subst hvalues
    by_contra hne
    exact quotes_ne_nil (Ne.symm hne) h.symm
  · have hothers : others ≠ [] := by
      rintro rfl
      exact quotes_ne_nil hvalues h
    have htext : (Matcher.oneOf values).expression = (Matcher.oneOf others).expression := by
      rw [← String.toList_inj, toList_expression_oneOf, toList_expression_oneOf, h]
    have hread := ofExpression_expression (m := .oneOf values) hvalues trivial
    rw [htext, ofExpression_expression (m := .oneOf others) hothers trivial] at hread
    exact (Matcher.oneOf.inj (Except.ok.inj hread)).symm

/-- **A matcher is told by its expression.** -/
theorem expression_inj {m m' : Matcher} : m.expression = m'.expression ↔ m = m' := by
  refine ⟨fun h => ?_, congrArg expression⟩
  have htext : m.expression.toList = m'.expression.toList := congrArg String.toList h
  cases m with
  | regex p =>
      rw [toList_expression_regex] at htext
      cases m' with
      | regex q =>
          rw [toList_expression_regex] at htext
          have hsource : p.source.toList = q.source.toList := by simpa using htext
          rw [Pattern.ext_source (String.toList_inj.mp hsource)]
      | oneOf others =>
          rw [toList_expression_oneOf] at htext
          simp at htext
      | _ => simp [expression] at htext
  | oneOf values =>
      rw [toList_expression_oneOf] at htext
      cases m' with
      | regex q =>
          rw [toList_expression_regex] at htext
          simp at htext
      | oneOf others =>
          rw [toList_expression_oneOf] at htext
          have hquotes : quotes values = quotes others := by simpa using htext
          rw [eq_of_quotes_eq hquotes]
      | _ => simp [expression] at htext
  | _ =>
      cases m' with
      | regex q =>
          rw [toList_expression_regex] at htext
          simp [expression] at htext
      | oneOf others =>
          rw [toList_expression_oneOf] at htext
          simp [expression] at htext
      | _ => simp_all [expression]

/-- The braces around an expression leave it visible. -/
theorem brace_inj {e e' : String} : brace e = brace e' ↔ e = e' := by
  rw [← String.toList_inj, brace, brace]
  simp only [String.toList_append, List.append_cancel_right_eq, List.append_cancel_left_eq,
    String.toList_inj]

/-- **Matchers are equal exactly if they are described alike**, whatever their patterns and
lists hold, so that no text stands for two rules. -/
theorem beq_iff_describe_eq (m m' : Matcher) : (m == m') = true ↔ m.describe = m'.describe :=
  calc (m == m') = true
    _ ↔ m = m' := beq_iff_eq
    _ ↔ m.expression = m'.expression := expression_inj.symm
    _ ↔ m.describe = m'.describe := brace_inj.symm

end Expectation.Matcher
