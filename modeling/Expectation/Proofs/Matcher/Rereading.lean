import Expectation.Proofs.Matcher.Spelling

/-!
# Reading expressions back

A matcher is written as an expression, and an expression is read as a matcher.
This file shows that reading undoes writing.  It does so for the matchers that
reading can give: a pattern that is not empty, a list with at least one value.
A pattern is written between backticks and must not have one itself; nothing
is asked of the values of a list, as they are quoted, and of the quoted values
every spelling is read.

## Main results

* `ofExpression_listed`: a list of values is read however it is spelled.
* `ofExpression_expression`: the expression of a matcher is read as the matcher.
* `ofExpression_cases`: what reading gives, and from where.
* `ofExpression_hasArgument`: what reading gives has its arguments.
-/

namespace Expectation.Matcher

/-- A pattern that is not empty, or at least one value. -/
def HasArgument : Matcher → Prop
  | .regex p => p.source.toList ≠ []
  | .oneOf values => values ≠ []
  | _ => True

/-- There is no backtick in the pattern. -/
def BacktickFree : Matcher → Prop
  | .regex p => '\x60' ∉ p.source.toList
  | _ => True

/-! ## Lists of values -/

/-- The values of a list, each in quotation marks, with a space between them. -/
def quotes (values : List String) : List Char :=
  List.intercalate [' '] (values.map fun v => (Json.quote v).toList)

theorem quotes_singleton (v : String) : quotes [v] = (Json.quote v).toList :=
  List.intercalate_singleton

theorem quotes_cons_cons (v w : String) (vs : List String) :
    quotes (v :: w :: vs) = (Json.quote v).toList ++ ' ' :: quotes (w :: vs) := by
  simp [quotes, List.intercalate_cons_cons]

/-- A list of values begins and ends with quotation marks. -/
theorem quotes_eq_marks {values : List String} (h : values ≠ []) :
    ∃ inner, quotes values = '"' :: inner ++ ['"'] := by
  induction values with
  | nil => exact absurd rfl h
  | cons v vs ih =>
      cases vs with
      | nil => exact ⟨_, by rw [quotes_singleton, Json.toList_quote]⟩
      | cons w vs =>
          obtain ⟨inner, hinner⟩ := ih (List.cons_ne_nil w vs)
          refine ⟨Json.escapeChars v.toList ++ '"' :: ' ' :: '"' :: inner, ?_⟩
          rw [quotes_cons_cons, hinner, Json.toList_quote]
          simp

/-- The list that is written is a list of spelled values, behind any gap. -/
theorem listed_append_quotes (v : String) (vs : List String) {gap : List Char}
    (hgap : ∀ c ∈ gap, isGap c = true) : Listed (v :: vs) (gap ++ quotes (v :: vs)) := by
  have hbody := Json.spelledAll_escapeChars v.toList
  induction vs generalizing v gap with
  | nil =>
      rw [quotes_singleton, Json.toList_quote]
      exact .cons hgap hbody .nil
  | cons w vs ih =>
      have hspace : ∀ c ∈ [' '], isGap c = true := List.forall_mem_singleton.mpr (by decide)
      have hrest := ih w hspace (Json.spelledAll_escapeChars w.toList)
      rw [quotes_cons_cons, Json.toList_quote, List.append_assoc]
      exact .cons hgap hbody hrest

/-! ## Expressions -/

theorem toList_expression_regex (p : Pattern) :
    (Matcher.regex p).expression.toList =
      "regex".toList ++ ' ' :: ('\x60' :: p.source.toList ++ ['\x60']) := by
  simp [expression, String.toList_append]

theorem toList_expression_oneOf (values : List String) :
    (Matcher.oneOf values).expression.toList = "oneOf".toList ++ ' ' :: quotes values := by
  rw [expression, String.toList_append, String.toList_intercalate, List.map_map]
  rfl

theorem afterKeyword?_append (keyword : String) (cs : List Char) :
    afterKeyword? keyword (keyword.toList ++ ' ' :: cs) = some (trimGaps cs) := by
  have hfront : keyword.toList.isPrefixOf (keyword.toList ++ ' ' :: cs) = true :=
    List.isPrefixOf_iff_prefix.mpr (List.prefix_append _ _)
  rw [afterKeyword?, if_pos hfront, List.drop_left]
  rfl

section Spaced

variable {text : String} {word cs : List Char}

/-- Nothing is trimmed from a word and an argument without blank ends. -/
theorem trim_spaced (hfirst : ∃ c ∈ word.head?, Text.isBlank c = false)
    (hlast : ∃ c ∈ cs.getLast?, Text.isBlank c = false) :
    Text.trim (word ++ ' ' :: cs) = word ++ ' ' :: cs := by
  obtain ⟨first, hword, hfirst⟩ := hfirst
  obtain ⟨last, hcs, hlast⟩ := hlast
  have hhead : (word ++ ' ' :: cs).head? = some first := by
    rw [List.head?_append, hword]
    rfl
  have hend : (word ++ ' ' :: cs).getLast? = some last := by
    rw [List.getLast?_append, List.getLast?_cons, hcs]
    rfl
  apply Text.dropWhile_ends_eq_self
  · rw [hhead]
    rintro c ⟨⟩
    exact hfirst
  · rw [hend]
    rintro c ⟨⟩
    exact hlast

/-- A text with a gap in it is no keyword of its own. -/
theorem ofExpression_spaced (htext : text.toList = word ++ ' ' :: cs)
    (hfirst : ∃ c ∈ word.head?, Text.isBlank c = false)
    (hlast : ∃ c ∈ cs.getLast?, Text.isBlank c = false) :
    ofExpression text =
      match afterKeyword? "regex" (word ++ ' ' :: cs) with
      | some rest => readPattern text rest
      | none =>
        match afterKeyword? "oneOf" (word ++ ' ' :: cs) with
        | some rest => readValues text rest
        | none => .error (.unknown text) := by
  have htrim : Text.trim text.toList = text.toList := by
    rw [htext]
    exact trim_spaced hfirst hlast
  have hgap : ' ' ∈ text.toList := by
    rw [htext]
    exact List.mem_append_right _ List.mem_cons_self
  rw [← htext]
  simp only [ofExpression, htrim, String.ofList_toList]
  split
  · exact absurd hgap (by decide)
  · exact absurd hgap (by decide)
  · exact absurd hgap (by decide)
  · exact absurd hgap (by decide)
  · exact absurd hgap (by decide)
  · exact absurd hgap (by decide)
  · rfl

/-- What follows the keyword of a pattern is read as a pattern. -/
theorem ofExpression_regex (htext : text.toList = "regex".toList ++ ' ' :: cs)
    (hlast : ∃ c ∈ cs.getLast?, Text.isBlank c = false) :
    ofExpression text = readPattern text (trimGaps cs) := by
  rw [ofExpression_spaced htext ⟨'r', rfl, by decide⟩ hlast, afterKeyword?_append]

/-- What follows the keyword of a list is read as values. -/
theorem ofExpression_oneOf (htext : text.toList = "oneOf".toList ++ ' ' :: cs)
    (hlast : ∃ c ∈ cs.getLast?, Text.isBlank c = false) :
    ofExpression text = readValues text (trimGaps cs) := by
  have hother : afterKeyword? "regex" ("oneOf".toList ++ ' ' :: cs) = none := rfl
  rw [ofExpression_spaced htext ⟨'o', rfl, by decide⟩ hlast, hother, afterKeyword?_append]

end Spaced

theorem last_ticks (cs : List Char) :
    ∃ c ∈ ('\x60' :: cs ++ ['\x60']).getLast?, Text.isBlank c = false :=
  ⟨'\x60', List.getLast?_concat, by decide⟩

theorem last_quotes {values : List String} (hne : values ≠ []) :
    ∃ c ∈ (quotes values).getLast?, Text.isBlank c = false := by
  obtain ⟨inner, hinner⟩ := quotes_eq_marks hne
  rw [hinner]
  exact ⟨'"', List.getLast?_concat, by decide⟩

/-- Nothing is trimmed from an expression. -/
theorem trim_expression {m : Matcher} (h : m.HasArgument) :
    Text.trim m.expression.toList = m.expression.toList := by
  cases m with
  | regex p =>
      rw [toList_expression_regex]
      exact trim_spaced ⟨'r', rfl, by decide⟩ (last_ticks _)
  | oneOf values =>
      rw [toList_expression_oneOf]
      exact trim_spaced ⟨'o', rfl, by decide⟩ (last_quotes h)
  | _ => decide

/-! ## Arguments -/

/-- A pattern between backticks is found. -/
theorem backticked?_source {cs : List Char} (hne : cs ≠ []) (htick : '\x60' ∉ cs) :
    backticked? ('\x60' :: cs ++ ['\x60']) = some cs := by
  obtain ⟨c, cs, rfl⟩ := List.exists_cons_of_ne_nil hne
  have hother : ∀ d ∈ c :: cs, (d != '\x60') = true := by
    intro d hd
    rw [bne_iff_ne]
    rintro rfl
    exact htick hd
  have htake : ((c :: cs) ++ ['\x60']).takeWhile (· != '\x60') = c :: cs := by
    rw [List.takeWhile_append_of_pos hother]
    simp
  have hdrop : ((c :: cs) ++ ['\x60']).dropWhile (· != '\x60') = ['\x60'] := by
    rw [List.dropWhile_append_of_pos hother]
    rfl
  simp only [List.cons_append, backticked?] at *
  rw [htake, hdrop]

theorem ofSource_source (p : Pattern) : Pattern.ofSource p.source = .ok p := by
  unfold Pattern.ofSource
  split
  · exact congrArg Except.ok (Pattern.ext_source rfl)
  · next reason hreason =>
      have hregex := p.denotes
      rw [hreason] at hregex
      exact absurd hregex (by simp)

theorem readPattern_source (expression : String) {p : Pattern} (hne : p.source.toList ≠ [])
    (htick : '\x60' ∉ p.source.toList) :
    readPattern expression ('\x60' :: p.source.toList ++ ['\x60']) = .ok (.regex p) := by
  have hfirst : ∀ other : Option (List Char),
      (some p.source.toList <|> other) = some p.source.toList := fun _ => rfl
  simp only [readPattern, backticked?_source hne htick, hfirst, String.ofList_toList,
    ofSource_source]

/-- The matcher with a pattern between backticks. -/
theorem ofExpression_ticks {text : String} {cs : List Char}
    (htext : text.toList = "regex".toList ++ ' ' :: ('\x60' :: cs ++ ['\x60'])) :
    ofExpression text = readPattern text ('\x60' :: cs ++ ['\x60']) := by
  have hends : trimGaps ('\x60' :: cs ++ ['\x60']) = '\x60' :: cs ++ ['\x60'] := by
    apply trimGaps_eq_self
    · rintro c ⟨⟩
      rfl
    · rw [List.getLast?_concat]
      rintro c ⟨⟩
      rfl
  rw [ofExpression_regex htext (last_ticks cs), hends]

/-- The matcher with arguments that have been read. -/
theorem readValues_of_arguments (expression : String) {cs : List Char} {values : List String}
    (hne : values ≠ []) (h : arguments cs = values.map String.toList) :
    readValues expression cs = .ok (.oneOf values) := by
  obtain ⟨v, vs, rfl⟩ := List.exists_cons_of_ne_nil hne
  have hvalues : ((v :: vs).map String.toList).map String.ofList = v :: vs := by
    rw [List.map_map]
    exact List.map_id'' (fun w => String.ofList_toList) (v :: vs)
  rw [readValues, h]
  exact congrArg (fun values => Except.ok (Matcher.oneOf values)) hvalues

/-- **Spelled lists are read.** -/
theorem ofExpression_of_listed {text : String} {cs : List Char} {values : List String}
    (htext : text.toList = "oneOf".toList ++ ' ' :: cs) (hne : values ≠ [])
    (h : Listed values cs) : ofExpression text = .ok (.oneOf values) := by
  have hlast : ∃ c ∈ cs.getLast?, Text.isBlank c = false := by
    obtain ⟨gap, inner, -, hcs⟩ := h.exists_marks hne
    rw [hcs, ← List.append_assoc]
    exact ⟨'"', List.getLast?_concat, by decide⟩
  rw [ofExpression_oneOf htext hlast]
  exact readValues_of_arguments _ hne (arguments_listed h hne)

/-- **Expressions are read back.**  The expression of a matcher denotes the
matcher. -/
theorem ofExpression_expression {m : Matcher} (h : m.HasArgument) (htick : m.BacktickFree) :
    ofExpression m.expression = .ok m := by
  cases m with
  | regex p =>
      rw [ofExpression_ticks (toList_expression_regex p)]
      exact readPattern_source _ h htick
  | oneOf values =>
      obtain ⟨v, vs, rfl⟩ := List.exists_cons_of_ne_nil h
      have hgap : ∀ c ∈ ([] : List Char), isGap c = true := by simp
      exact ofExpression_of_listed (toList_expression_oneOf _) h (listed_append_quotes v vs hgap)
  | _ => rfl

/-- **Every way to write a list of values denotes the list**: whatever spellings its values
have and whatever gaps stand between them, and so does the form in which it is written. -/
theorem ofExpression_listed {values : List String} (hne : values ≠ []) :
    (∀ text : String, Listed values text.toList →
        ofExpression ("oneOf " ++ text) = .ok (.oneOf values)) ∧
      ofExpression (Matcher.oneOf values).expression = .ok (.oneOf values) := by
  constructor
  · intro text h
    have htext : ("oneOf " ++ text).toList = "oneOf".toList ++ ' ' :: text.toList := by
      rw [String.toList_append]
      rfl
    exact ofExpression_of_listed htext hne h
  · exact ofExpression_expression hne trivial

/-- Numbers in digits of both cases, a pair of halves, a short escape, and a tab between the
values. -/
theorem ofExpression_listed_numbers :
    Listed ["A😀", "a/"] "\"\\u0041\\uD83d\\uDE00\"\t\"a\\/\"".toList ∧
      ofExpression ("oneOf " ++ "\"\\u0041\\uD83d\\uDE00\"\t\"a\\/\"") =
        .ok (.oneOf ["A😀", "a/"]) := by
  have hzero : Json.IsHexDigit '0' 0 := ⟨by decide, .inl (by decide)⟩
  have hletter : Json.FourDigits 'A'.toNat ['0', '0', '4', '1'] :=
    .mk (i := 0) (j := 0) (k := 4) (l := 1) hzero hzero ⟨by decide, .inl (by decide)⟩
      ⟨by decide, .inl (by decide)⟩
  have hhigh : Json.FourDigits (0xD800 + ('😀'.toNat - 0x10000) / 1024) ['D', '8', '3', 'd'] :=
    .mk (i := 13) (j := 8) (k := 3) (l := 13) ⟨by decide, .inr (by decide)⟩
      ⟨by decide, .inl (by decide)⟩ ⟨by decide, .inl (by decide)⟩ ⟨by decide, .inl (by decide)⟩
  have hlow : Json.FourDigits (0xDC00 + ('😀'.toNat - 0x10000) % 1024) ['D', 'E', '0', '0'] :=
    .mk (i := 13) (j := 14) (k := 0) (l := 0) ⟨by decide, .inr (by decide)⟩
      ⟨by decide, .inr (by decide)⟩ hzero hzero
  have hfirst : Json.SpelledAll "A😀".toList "\\u0041\\uD83d\\uDE00".toList :=
    .cons (.number hletter) (.cons (.pair (by decide) hhigh hlow) .nil)
  have hsecond : Json.SpelledAll "a/".toList "a\\/".toList :=
    .cons (.plain (by decide) (by decide) (by decide)) (.cons (.short (by decide)) .nil)
  have hnone : ∀ c ∈ ([] : List Char), isGap c = true := by simp
  have htab : ∀ c ∈ ['\t'], isGap c = true := List.forall_mem_singleton.mpr (by decide)
  have hlisted : Listed ["A😀", "a/"] "\"\\u0041\\uD83d\\uDE00\"\t\"a\\/\"".toList :=
    .cons hnone hfirst (.cons htab hsecond .nil)
  exact ⟨hlisted, (ofExpression_listed (List.cons_ne_nil "A😀" ["a/"])).1 _ hlisted⟩

/-! ## What reading gives -/

theorem ne_nil_of_backticked? {cs source : List Char} (h : backticked? cs = some source) :
    source ≠ [] := by
  unfold backticked? at h
  split at h
  · split at h
    · cases h
      exact List.cons_ne_nil _ _
    · exact absurd h (by simp)
  · exact absurd h (by simp)

theorem ne_nil_of_firstArgument? {cs source : List Char} (h : firstArgument? cs = some source) :
    source ≠ [] := by
  unfold firstArgument? at h
  split at h
  · cases h
    exact List.cons_ne_nil _ _
  · exact absurd h (by simp)

theorem source_of_ofSource {source : String} {p : Pattern} (h : Pattern.ofSource source = .ok p) :
    p.source = source := by
  unfold Pattern.ofSource at h
  split at h
  · cases h
    rfl
  · exact absurd h (by simp)

/-- A pattern is read from between backticks or from the first quoted value. -/
theorem exists_pattern_of_readPattern {expression : String} {cs : List Char} {m : Matcher}
    (h : readPattern expression cs = .ok m) :
    ∃ p, m = .regex p ∧ (backticked? cs = some p.source.toList ∨
      backticked? cs = none ∧ firstArgument? cs = some p.source.toList) := by
  unfold readPattern at h
  split at h
  · exact absurd h (by simp)
  · next source hsource =>
      split at h
      · next p hp =>
          cases h
          have hlist : p.source.toList = source := by
            rw [source_of_ofSource hp, String.toList_ofList]
          refine ⟨p, rfl, ?_⟩
          rw [hlist]
          cases hticked : backticked? cs with
          | some other =>
              rw [hticked] at hsource
              exact .inl hsource
          | none =>
              rw [hticked] at hsource
              exact .inr ⟨rfl, hsource⟩
      · exact absurd h (by simp)

theorem readPattern_hasArgument {expression : String} {cs : List Char} {m : Matcher}
    (h : readPattern expression cs = .ok m) : m.HasArgument := by
  obtain ⟨p, rfl, hticked | ⟨-, hfirst⟩⟩ := exists_pattern_of_readPattern h
  · exact ne_nil_of_backticked? hticked
  · exact ne_nil_of_firstArgument? hfirst

theorem readValues_hasArgument {expression : String} {cs : List Char} {m : Matcher}
    (h : readValues expression cs = .ok m) : m.HasArgument := by
  unfold readValues at h
  split at h
  · exact absurd h (by simp)
  · next values hvalues =>
      cases h
      exact fun hnil => hvalues (List.map_eq_nil_iff.mp hnil)

/-- The matchers without arguments. -/
def keywords : List Matcher := [.anyString, .anyInt, .anyFloat, .anyBool, .anyValue, .ignore]

/-- A matcher is denoted by a keyword of its own, by a pattern or by values. -/
theorem ofExpression_cases {text : String} {m : Matcher} (h : ofExpression text = .ok m) :
    m ∈ keywords ∨
      (∃ rest, afterKeyword? "regex" (Text.trim text.toList) = some rest ∧
        readPattern (String.ofList (Text.trim text.toList)) rest = .ok m) ∨
      afterKeyword? "regex" (Text.trim text.toList) = none ∧
        ∃ rest, afterKeyword? "oneOf" (Text.trim text.toList) = some rest ∧
          readValues (String.ofList (Text.trim text.toList)) rest = .ok m := by
  unfold ofExpression at h
  simp only at h
  split at h
  case h_7 =>
    right
    split at h
    · next rest hrest => exact .inl ⟨rest, hrest, h⟩
    · next hother =>
        split at h
        · next rest hrest => exact .inr ⟨hother, rest, hrest, h⟩
        · exact absurd h (by simp)
  all_goals
    cases h
    exact .inl (by simp [keywords])

/-- A matcher that an expression denotes has its arguments. -/
theorem ofExpression_hasArgument {text : String} {m : Matcher} (h : ofExpression text = .ok m) :
    m.HasArgument := by
  rcases ofExpression_cases h with hkeyword | ⟨rest, -, hrest⟩ | ⟨-, rest, -, hrest⟩
  · simp only [keywords, List.mem_cons, List.not_mem_nil, or_false] at hkeyword
    rcases hkeyword with rfl | rfl | rfl | rfl | rfl | rfl <;> trivial
  · exact readPattern_hasArgument hrest
  · exact readValues_hasArgument hrest

end Expectation.Matcher
