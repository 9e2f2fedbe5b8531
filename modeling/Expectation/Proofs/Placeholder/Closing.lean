import Expectation.Placeholder
import Expectation.Proofs.Matcher.Rereading

/-!
# Where an expression ends

An expression in a document reaches to the first pair of closing braces outside
backticks.  So the expression of a matcher is found whole if its pattern, which
is written between backticks, has no backtick, and its values have neither a
backtick nor such a pair.

## Main results

* `Matcher.beforeClose_expression`: the expression of a quiet matcher is found
  whole.
* `Matcher.lacks_expression`: it holds no front of a sentinel.
-/

namespace Expectation.Placeholder

open Text (Lacks Unpaired)

/-! ## Passing what is no end -/

theorem beforeClose_cons (ticked : Bool) (c : Char) (cs : List Char) :
    beforeClose ticked (c :: cs) =
      if c = '\x60' then (beforeClose (!ticked) cs).map (c :: ·)
      else if c = '\x7D' && !ticked && cs.head? = some '\x7D' then some []
      else (beforeClose ticked cs).map (c :: ·) :=
  rfl

theorem beforeClose_close (rest : List Char) :
    beforeClose false ('\x7D' :: '\x7D' :: rest) = some [] :=
  rfl

theorem beforeClose_tick (ticked : Bool) (rest : List Char) :
    beforeClose ticked ('\x60' :: rest) = (beforeClose (!ticked) rest).map ('\x60' :: ·) :=
  rfl

/-- Between backticks everything but a backtick is passed. -/
theorem beforeClose_ticked {cs : List Char} (htick : '\x60' ∉ cs) (rest : List Char) :
    beforeClose true (cs ++ rest) = (beforeClose true rest).map (cs ++ ·) := by
  induction cs with
  | nil => simp
  | cons c cs ih =>
      have hc : c ≠ '\x60' := fun h => htick (h ▸ List.mem_cons_self)
      have htail := ih fun h => htick (List.mem_cons_of_mem c h)
      simp [beforeClose_cons, hc, htail, Function.comp_def]

/-- Outside backticks a text without a pair of closing braces is passed. -/
theorem beforeClose_unticked {cs : List Char} (htick : '\x60' ∉ cs)
    (hpair : Unpaired '\x7D' cs) (rest : List Char) :
    beforeClose false (cs ++ rest) = (beforeClose false rest).map (cs ++ ·) := by
  induction cs with
  | nil => simp
  | cons c cs ih =>
      have hc : c ≠ '\x60' := fun h => htick (h ▸ List.mem_cons_self)
      have htail := ih (fun h => htick (List.mem_cons_of_mem c h)) hpair.tail
      have hclose : ¬ (decide (c = '\x7D') && !false &&
          decide ((cs ++ rest).head? = some '\x7D')) = true := by
        simp only [Bool.not_false, Bool.and_true, Bool.and_eq_true, decide_eq_true_eq]
        rintro ⟨rfl, hhead⟩
        exact hpair.head?_append_ne rest hhead
      rw [List.cons_append, beforeClose_cons, if_neg hc, if_neg hclose, htail, Option.map_map]
      rfl

/-! ## What an end depends on -/

/-- Behind what is found stand two closing braces. -/
theorem eq_of_beforeClose {ticked : Bool} {cs inner : List Char}
    (h : beforeClose ticked cs = some inner) :
    ∃ rest, cs = inner ++ '\x7D' :: '\x7D' :: rest := by
  induction cs generalizing ticked inner with
  | nil => contradiction
  | cons c cs ih =>
      have hstep : ∀ next, (beforeClose next cs).map (c :: ·) = some inner →
          ∃ rest, c :: cs = inner ++ '\x7D' :: '\x7D' :: rest := by
        intro next hnext
        obtain ⟨inner, hinner, rfl⟩ := Option.map_eq_some_iff.mp hnext
        obtain ⟨rest, rfl⟩ := ih hinner
        exact ⟨rest, rfl⟩
      rw [beforeClose_cons] at h
      split at h
      · exact hstep _ h
      · split at h
        · next hclose =>
          simp only [Bool.and_eq_true, decide_eq_true_eq] at hclose
          obtain ⟨⟨rfl, -⟩, hhead⟩ := hclose
          obtain ⟨rest, rfl⟩ := List.head?_eq_some_iff.mp hhead
          obtain rfl := Option.some.inj h
          exact ⟨rest, rfl⟩
        · exact hstep _ h

/-- **Where an expression ends** does not depend on what follows its closing braces. -/
theorem beforeClose_of_append {ticked : Bool} {inner rest : List Char}
    (h : beforeClose ticked (inner ++ '\x7D' :: '\x7D' :: rest) = some inner)
    (rest' : List Char) :
    beforeClose ticked (inner ++ '\x7D' :: '\x7D' :: rest') = some inner := by
  induction inner generalizing ticked with
  | nil =>
      cases ticked with
      | false => rfl
      | true => simp [beforeClose_cons] at h
  | cons c inner ih =>
      have hstep : ∀ next, (beforeClose next (inner ++ '\x7D' :: '\x7D' :: rest)).map (c :: ·) =
          some (c :: inner) →
          (beforeClose next (inner ++ '\x7D' :: '\x7D' :: rest')).map (c :: ·) =
            some (c :: inner) := by
        intro next hnext
        obtain ⟨inner', hinner, heq⟩ := Option.map_eq_some_iff.mp hnext
        obtain rfl := (List.cons.inj heq).2
        rw [ih hinner]
        rfl
      have hhead : (inner ++ '\x7D' :: '\x7D' :: rest').head? =
          (inner ++ '\x7D' :: '\x7D' :: rest).head? := by
        cases inner <;> rfl
      rw [List.cons_append, beforeClose_cons] at h ⊢
      rw [hhead]
      split at h
      · next htick =>
        rw [if_pos htick]
        exact hstep _ h
      · next htick =>
        split at h
        · exact absurd (Option.some.inj h) (List.cons_ne_nil c inner).symm
        · next hclose =>
          rw [if_neg htick, if_neg hclose]
          exact hstep _ h

end Expectation.Placeholder

namespace Expectation.Matcher

/-! ## Quiet matchers -/

open Text (Lacks Unpaired)

/-- What the arguments of a matcher must not hold if its expression is to be
found again in a document: backticks, the name of the sentinels, and for values,
which stand outside backticks, a pair of closing braces. -/
def Quiet : Matcher → Prop
  | .regex p => '\x60' ∉ p.source.toList ∧ Lacks "__MATCHER".toList p.source.toList
  | .oneOf values => ∀ v ∈ values, '\x60' ∉ v.toList ∧ Lacks "__MATCHER".toList v.toList ∧
      Lacks "\x7D\x7D".toList v.toList
  | _ => True

instance (m : Matcher) : Decidable m.Quiet :=
  match m with
  | .regex _ => inferInstanceAs (Decidable (_ ∧ _))
  | .oneOf values => inferInstanceAs (Decidable (∀ v ∈ values, _ ∧ _ ∧ _))
  | .anyString | .anyInt | .anyFloat | .anyBool | .anyValue | .ignore => isTrue trivial

theorem Quiet.backtickFree {m : Matcher} (h : m.Quiet) : m.BacktickFree := by
  cases m with
  | regex p => exact h.1
  | _ => trivial

/-- A list of values holds no needle that none of them holds. -/
theorem lacks_quotes {needle : List Char} {values : List String} (hne : needle ≠ [])
    (hneedle : ∀ d ∈ needle, d ∉ ' ' :: Json.escapeAlphabet)
    (h : ∀ v ∈ values, Lacks needle v.toList) : Lacks needle (quotes values) := by
  have halphabet : ∀ d ∈ needle, d ∉ Json.escapeAlphabet :=
    fun d hd hmem => hneedle d hd (List.mem_cons_of_mem _ hmem)
  have hspace : ' ' ∉ needle := fun hmem => hneedle _ hmem List.mem_cons_self
  have hnil : Lacks needle [] := fun hn => hne (List.infix_nil.mp hn)
  induction values with
  | nil => exact hnil
  | cons v vs ih =>
      have hv := h v List.mem_cons_self
      cases vs with
      | nil =>
          rw [quotes_singleton, ← List.append_nil (Json.quote v).toList]
          exact Json.lacks_quote_append hne halphabet hv hnil
      | cons w vs =>
          have htail := ih fun u hu => h u (List.mem_cons_of_mem _ hu)
          rw [quotes_cons_cons]
          exact Json.lacks_quote_append hne halphabet hv (Text.lacks_cons hne hspace htail)

/-- A list of values ends with a quotation mark, so it does not end in a brace. -/
theorem unpaired_quotes {values : List String} (hne : values ≠ [])
    (h : ∀ v ∈ values, Lacks "\x7D\x7D".toList v.toList) : Unpaired '\x7D' (quotes values) := by
  have hneedle : ∀ d ∈ ['\x7D', '\x7D'], d ∉ ' ' :: Json.escapeAlphabet :=
    List.all_iff_forall_prop.mp (by decide)
  refine ⟨lacks_quotes (List.cons_ne_nil _ _) hneedle h, ?_⟩
  obtain ⟨inner, hinner⟩ := quotes_eq_marks hne
  rw [hinner, List.getLast?_concat]
  decide

/-- There is no backtick in a list of values without backticks. -/
theorem not_mem_quotes {values : List String} (h : ∀ v ∈ values, '\x60' ∉ v.toList) :
    '\x60' ∉ quotes values := by
  have hneedle : ∀ d ∈ ['\x60'], d ∉ ' ' :: Json.escapeAlphabet :=
    List.all_iff_forall_prop.mp (by decide)
  have hlacks : Lacks ['\x60'] (quotes values) :=
    lacks_quotes (List.cons_ne_nil _ _) hneedle fun v hv =>
      Text.lacks_of_not_mem List.mem_cons_self (h v hv)
  exact fun hmem => hlacks (List.singleton_infix_iff _ _ |>.mpr hmem)

/-- **Expressions end where they end.**  The first pair of closing braces outside
backticks is the one behind the expression. -/
theorem beforeClose_expression {m : Matcher} (harg : m.HasArgument) (h : m.Quiet)
    (rest : List Char) :
    Placeholder.beforeClose false (m.expression.toList ++ '\x7D' :: '\x7D' :: rest) =
      some m.expression.toList := by
  cases m with
  | regex p =>
      have hword : Unpaired '\x7D' "regex ".toList := Text.unpaired_of_not_mem (by decide)
      have htext : (Matcher.regex p).expression.toList ++ '\x7D' :: '\x7D' :: rest =
          "regex ".toList ++ '\x60' :: (p.source.toList ++
            '\x60' :: '\x7D' :: '\x7D' :: rest) := by
        simp [toList_expression_regex]
      rw [htext, Placeholder.beforeClose_unticked (by decide) hword,
        Placeholder.beforeClose_tick, Bool.not_false, Placeholder.beforeClose_ticked h.1,
        Placeholder.beforeClose_tick, Bool.not_true, Placeholder.beforeClose_close]
      simp [toList_expression_regex]
  | oneOf values =>
      have hword : Unpaired '\x7D' "oneOf ".toList := Text.unpaired_of_not_mem (by decide)
      have hlist := unpaired_quotes harg fun v hv => (h v hv).2.2
      have htick := not_mem_quotes fun v hv => (h v hv).1
      have htext : (Matcher.oneOf values).expression.toList ++ '\x7D' :: '\x7D' :: rest =
          "oneOf ".toList ++ (quotes values ++ '\x7D' :: '\x7D' :: rest) := by
        simp [toList_expression_oneOf]
      rw [htext, Placeholder.beforeClose_unticked (by decide) hword,
        Placeholder.beforeClose_unticked htick hlist, Placeholder.beforeClose_close]
      simp [toList_expression_oneOf]
  | _ =>
      rw [Placeholder.beforeClose_unticked (by decide) (Text.unpaired_of_not_mem (by decide)),
        Placeholder.beforeClose_close]
      simp

/-- The expression of a quiet matcher holds no front of a sentinel. -/
theorem lacks_expression {m : Matcher} (h : m.Quiet) :
    Lacks Placeholder.sentinelFront m.expression.toList := by
  have hname : "__MATCHER".toList <:+: Placeholder.sentinelFront := by decide
  have hne : Placeholder.sentinelFront ≠ [] := by decide
  cases m with
  | regex p =>
      have hsource : Lacks Placeholder.sentinelFront (p.source.toList ++ ['\x60']) := by
        refine Text.lacks_append (h.2.of_needle hname) ?_ ?_
        · exact Text.lacks_of_not_mem (c := '_') (by decide) (by decide)
        · rintro c ⟨⟩
          decide
      have htext : (Matcher.regex p).expression.toList =
          "regex \x60".toList ++ (p.source.toList ++ ['\x60']) := by
        simp [toList_expression_regex]
      have hword : ∀ c ∈ "regex \x60".toList, c ∉ Placeholder.sentinelFront :=
        List.all_iff_forall_prop.mp (by decide)
      rw [htext]
      exact Text.lacks_append_of_front hne hword hsource
  | oneOf values =>
      have hneedle : ∀ d ∈ Placeholder.sentinelFront, d ∉ ' ' :: Json.escapeAlphabet :=
        List.all_iff_forall_prop.mp (by decide)
      have hlist : Lacks Placeholder.sentinelFront (quotes values) :=
        lacks_quotes hne hneedle fun v hv => (h v hv).2.1.of_needle hname
      have htext : (Matcher.oneOf values).expression.toList =
          "oneOf ".toList ++ quotes values := by
        simp [toList_expression_oneOf]
      have hword : ∀ c ∈ "oneOf ".toList, c ∉ Placeholder.sentinelFront :=
        List.all_iff_forall_prop.mp (by decide)
      rw [htext]
      exact Text.lacks_append_of_front hne hword hlist
  | _ => exact Text.lacks_of_not_mem (c := '_') (by decide) (by decide)

end Expectation.Matcher
