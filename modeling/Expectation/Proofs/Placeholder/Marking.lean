import Expectation.Proofs.Placeholder.Absent

/-!
# Sentinels among other text

Every placeholder of a raw text becomes a sentinel, and the search for sentinels in
the text that comes out should find just these, each where its placeholder stood.
Plain text can prevent that in three ways.  It can look like a sentinel that was
handed out.  It can lack only underscores at its end, and a sentinel begins with
two.  Or it ends in all but the last character of a sentinel's front, again with a
sentinel behind it: then the search takes the front together with an underscore of
the sentinel, sees that no number follows, and passes over both.

Apart from these three nothing can go wrong, since a front overlaps with itself in
no more than one character.

## Main results

* `tokenize_spell`: honest text is searched without mistakes.
* `honest_of_lacks`: text without the name of the sentinels is honest.
* `places_ofText`: the places found are the places handed out, in order.
-/

namespace Expectation.Placeholder

open Text (Lacks)

/-! ## What should be found -/

/-- The tokens that segments stand for, with the placeholders counted from `index`. -/
def marked : Nat → List Segment → List Token
  | _, [] => []
  | index, .char c :: rest => .char c :: marked index rest
  | index, .placeholder _ quoted :: rest =>
    (if quoted then [.char '"', .mark index, .char '"'] else [.mark index]) ++
      marked (index + 1) rest

/-- The place that a piece stands for. -/
def Piece.place? : Piece → Option Nat
  | .literal _ => none
  | .mark i => some i

/-- The places that tokens stand for once they are joined to pieces, in order. -/
def places (ts : List Token) : List Nat :=
  (pieces ts).filterMap Piece.place?

/-- Neighbouring segments in which plain text passes for a sentinel or for a part of
one. -/
inductive Misleading (count : Nat) : List Segment → Prop
  /-- The plain text looks like a sentinel that was handed out. -/
  | sentinel {ds : List Char} (h : NamesPlace count ds) :
      Misleading count ((sentinelFront ++ ds ++ sentinelBack).map .char)
  /-- It does so with the underscores of the sentinel behind it. -/
  | completed {ds back e : List Char} (h : NamesPlace count ds)
      (hback : back <+: sentinelBack) (hne : back ≠ sentinelBack) :
      Misleading count ((sentinelFront ++ ds ++ back).map .char ++ [.placeholder e false])
  /-- It begins a front that the sentinel behind it completes. -/
  | front {e : List Char} :
      Misleading count ("__MATCHER".toList.map .char ++ [.placeholder e false])

/-- Segments without plain text that passes for a part of a sentinel. -/
def Honest (count : Nat) (segments : List Segment) : Prop :=
  ∀ part, part <:+: segments → ¬ Misleading count part

variable {count i : Nat} {segments rest : List Segment}

theorem Honest.of_suffix (h : Honest count segments) (hrest : rest <:+ segments) :
    Honest count rest :=
  fun part hpart => h part (hpart.trans hrest.isInfix)

theorem Honest.not_prefix (h : Honest count segments) {part : List Segment}
    (hpart : Misleading count part) : ¬ part <+: segments :=
  fun hprefix => h part hprefix.isInfix hpart

/-! ## The text of segments -/

/-- What the text of segments begins with is plain text, or it reaches into the sentinel
of a placeholder, unless it has a quotation mark. -/
theorem prefix_spell {cs : List Char} (hquote : '"' ∉ cs) (h : cs <+: spell i segments) :
    cs.map .char <+: segments ∨ ∃ run tail e after, cs = run ++ '_' :: tail ∧
      segments = run.map .char ++ .placeholder e false :: after := by
  induction cs generalizing segments with
  | nil => exact .inl List.nil_prefix
  | cons c cs ih =>
      obtain ⟨hc, hcs⟩ := not_or.mp (mt List.mem_cons.mpr hquote)
      cases segments with
      | nil => exact absurd (List.prefix_nil.mp h) (List.cons_ne_nil _ _)
      | cons segment after =>
          cases segment with
          | char d =>
              obtain ⟨rfl, hrest⟩ := List.cons_prefix_cons.mp h
              rcases ih hcs hrest with hplain | ⟨run, tail, e, after, rfl, rfl⟩
              · exact .inl (List.cons_prefix_cons.mpr ⟨rfl, hplain⟩)
              · exact .inr ⟨c :: run, tail, e, after, rfl, rfl⟩
          | placeholder e quoted =>
              have hhead : c = if quoted then '"' else '_' := by
                cases quoted <;> exact (List.cons_prefix_cons.mp h).1
              cases quoted with
              | true => exact absurd hhead.symm hc
              | false => exact .inr ⟨[], cs, e, after, by rw [hhead]; rfl, rfl⟩

/-- A front that begins in front of a sentinel and ends in it has one character
there. -/
theorem eq_of_front_overlap {run after : List Char} (hrun : run ≠ [])
    (hlength : run.length < sentinelFront.length)
    (h : sentinelFront <+: run ++ (sentinel i ++ after)) : run = "__MATCHER".toList := by
  have hborder : ∀ k : Fin sentinelFront.length, 0 < k.val →
      sentinelFront.drop k <+: sentinelFront → sentinelFront.take k = "__MATCHER".toList := by
    decide
  have htake : run = sentinelFront.take run.length := List.prefix_iff_eq_take.mp
    (List.prefix_of_prefix_length_le (List.prefix_append _ _) h hlength.le)
  have htail : sentinelFront.drop run.length <+: sentinel i ++ after := by
    simpa using h.drop run.length
  have hoverlap : sentinelFront.drop run.length <+: sentinelFront := by
    refine List.prefix_of_prefix_length_le htail
      ((sentinelFront_isPrefix i).trans (List.prefix_append _ _)) ?_
    rw [List.length_drop]
    exact Nat.sub_le _ _
  exact htake.trans
    (hborder ⟨run.length, hlength⟩ (List.length_pos_iff.mpr hrun) hoverlap)

/-- In honest text a front does not reach into the sentinel of a placeholder. -/
theorem Honest.front_prefix {c : Char} (h : Honest count (.char c :: rest))
    (hfront : sentinelFront <+: spell i (.char c :: rest)) :
    sentinelFront.map .char <+: .char c :: rest := by
  rcases prefix_spell (by decide) hfront with hplain | ⟨run, tail, e, after, hcut, hsegments⟩
  · exact hplain
  · have hrun : run ≠ [] := by
      rintro rfl
      cases hsegments
    have hlength : run.length < sentinelFront.length := by
      rw [hcut, List.length_append]
      exact Nat.lt_add_of_pos_right (Nat.succ_pos _)
    rw [hsegments, spell_chars] at hfront
    have heq := eq_of_front_overlap hrun hlength hfront
    refine absurd ?_ (h.not_prefix (.front (e := e)))
    rw [hsegments, heq, List.append_cons]
    exact List.prefix_append _ _

/-- In honest text what stands behind a front names no place. -/
theorem Honest.sentinelPlace?_eq_none (h : Honest count segments)
    (hfront : sentinelFront.map .char <+: segments) :
    sentinelPlace? count ((spell i segments).drop sentinelFront.length) = none := by
  obtain ⟨after, rfl⟩ := hfront
  rw [spell_chars, List.drop_left]
  by_contra hplace
  obtain ⟨⟨n, length⟩, hsome⟩ := Option.ne_none_iff_exists'.mp hplace
  obtain ⟨ds, behind, hnames, hcs, -, -⟩ := exists_of_sentinelPlace? hsome
  have hprefix : ds ++ sentinelBack <+: spell i after := by
    rw [hcs, ← List.append_assoc]
    exact List.prefix_append _ _
  have hquote : '"' ∉ ds ++ sentinelBack := by
    intro hmem
    rcases List.mem_append.mp hmem with hdigit | hback
    · exact absurd (hnames.digits _ hdigit) (by decide)
    · exact absurd hback (by decide)
  rcases prefix_spell hquote hprefix with hplain | ⟨run, tail, e, after, hcut, rfl⟩
  · refine h.not_prefix (.sentinel hnames) ?_
    rw [List.append_assoc, List.map_append]
    exact (List.prefix_append_right_inj _).mpr hplain
  · have hcompleted : ∀ back, back <+: sentinelBack → back ≠ sentinelBack →
        run ≠ ds ++ back := by
      rintro back hback hproper rfl
      refine h.not_prefix (.completed (e := e) hnames hback hproper) ?_
      rw [List.append_assoc, List.map_append, List.append_assoc, List.append_cons]
      exact (List.prefix_append_right_inj _).mpr (by simp)
    -- the number ends in front of the sentinel, since a sentinel begins with no digit
    rcases List.append_eq_append_iff.mp hcut with ⟨x, rfl, hback⟩ | ⟨x, rfl, hdigits⟩
    · refine hcompleted x ⟨_, hback.symm⟩ ?_ rfl
      rintro rfl
      exact absurd (List.self_eq_append_right.mp hback) (List.cons_ne_nil _ _)
    · cases x with
      | nil => exact hcompleted [] List.nil_prefix (by decide) (by simp)
      | cons d x =>
          have hd : d.isDigit = true := hnames.digits d (by simp)
          obtain rfl : '_' = d := (List.cons.inj hdigits).1
          exact absurd hd (by decide)

/-! ## Searching -/

theorem tokenize_quote (cs : List Char) :
    tokenize count 0 0 ('"' :: cs) = .char '"' :: tokenize count 0 0 cs := by
  obtain ⟨front, hfront⟩ : ∃ front, sentinelFront = '_' :: front := ⟨_, rfl⟩
  have hno : ¬ sentinelFront.isPrefixOf ('"' :: cs) = true := by
    rw [hfront, List.isPrefixOf_iff_prefix, List.cons_prefix_cons]
    exact fun h => absurd h.1 (by decide)
  rw [tokenize, if_neg hno]

/-- **Honest text is searched without mistakes**, also from within a run of plain text
that is kept without a search. -/
theorem tokenize_spell (h : Honest count segments)
    (hcount : i + (expressionsOf segments).length ≤ count) {run : List Char}
    (hrun : run.map .char <+: segments) :
    tokenize count 0 run.length (spell i segments) = marked i segments := by
  induction segments generalizing i run with
  | nil =>
      obtain rfl : run = [] := by simpa using List.prefix_nil.mp hrun
      rfl
  | cons segment rest ih =>
      have hrest : Honest count rest := h.of_suffix (List.suffix_cons _ _)
      cases segment with
      | placeholder e quoted =>
          obtain rfl : run = [] := by
            cases run with
            | nil => rfl
            | cons c run => exact absurd (List.cons_prefix_cons.mp hrun).1 (by simp)
          have hlength : (expressionsOf (.placeholder e quoted :: rest)).length =
              (expressionsOf rest).length + 1 := rfl
          have hi : i < count := by omega
          have hnone : ([] : List Char).map Segment.char <+: rest := List.nil_prefix
          have htail := ih hrest (i := i + 1) (by omega) hnone
          cases quoted with
          | true =>
              have htext : spell i (.placeholder e true :: rest) =
                  '"' :: (sentinel i ++ '"' :: spell (i + 1) rest) := by
                simp [spell]
              rw [htext, List.length_nil, tokenize_quote, tokenize_sentinel hi, tokenize_quote]
              exact congrArg (_ :: _ :: _ :: ·) htail
          | false =>
              have htext : spell i (.placeholder e false :: rest) =
                  sentinel i ++ spell (i + 1) rest := rfl
              rw [htext, List.length_nil, tokenize_sentinel hi]
              exact congrArg (_ :: ·) htail
      | char c =>
          have hplain : ∀ run : List Char, run.map .char <+: rest →
              tokenize count 0 run.length (spell i rest) = marked i rest :=
            fun run hrun => ih hrest hcount hrun
          cases run with
          | cons d run =>
              have htail := hplain run (List.cons_prefix_cons.mp hrun).2
              exact congrArg (_ :: ·) htail
          | nil =>
              rw [List.length_nil, spell, tokenize, marked]
              split
              · next hfront =>
                have hprefix := h.front_prefix (i := i) (List.isPrefixOf_iff_prefix.mp hfront)
                have hnone := h.sentinelPlace?_eq_none (i := i) hprefix
                rw [spell] at hnone
                rw [hnone]
                exact congrArg (_ :: ·)
                  (hplain sentinelFront.tail (List.cons_prefix_cons.mp hprefix).2)
              · exact congrArg (_ :: ·) (hplain [] List.nil_prefix)

/-! ## Places -/

theorem places_char (c : Char) (ts : List Token) : places (.char c :: ts) = places ts := by
  rw [places, places, pieces]
  split
  · next h =>
    rw [h]
    rfl
  · rfl

/-- The placeholders of segments have the places that are counted for them. -/
theorem places_marked (i : Nat) (segments : List Segment) :
    places (marked i segments) = List.range' i (expressionsOf segments).length := by
  induction segments generalizing i with
  | nil => rfl
  | cons segment rest ih =>
      cases segment with
      | char c => exact (places_char c _).trans (ih i)
      | placeholder e quoted =>
          have hlength : (expressionsOf (.placeholder e quoted :: rest)).length =
              (expressionsOf rest).length + 1 := rfl
          rw [hlength, List.range'_succ, ← ih]
          cases quoted with
          | true =>
              exact (places_char _ _).trans
                (congrArg (i :: ·) (places_char _ _))
          | false => rfl

/-! ## Text without the name of the sentinels -/

/-- Plain text at the front of the segments of a raw text is at its front. -/
theorem prefix_of_prefix_scan {context : ScanContext} {cs raw : List Char}
    (h : cs.map .char <+: scan 0 context raw) : cs <+: raw := by
  induction cs generalizing context raw with
  | nil => exact List.nil_prefix
  | cons c cs ih =>
      cases raw with
      | nil => exact absurd (List.prefix_nil.mp h) (List.cons_ne_nil _ _)
      | cons d raw =>
          rw [scan] at h
          split at h
          · exact absurd (List.cons_prefix_cons.mp h).1 (by simp)
          · obtain ⟨hc, htail⟩ := List.cons_prefix_cons.mp h
            exact List.cons_prefix_cons.mpr ⟨Segment.char.inj hc, ih htail⟩

/-- The plain text of a raw text lacks what the raw text lacks. -/
theorem not_infix_scan {needle raw : List Char} (h : Lacks needle raw) (left : Nat)
    (context : ScanContext) : ¬ needle.map .char <:+: scan left context raw := by
  induction raw generalizing left context with
  | nil =>
      intro hinfix
      have hnil : needle.map Segment.char = [] := by
        cases left <;> exact List.infix_nil.mp hinfix
      exact h (List.map_eq_nil_iff.mp hnil ▸ List.nil_infix)
  | cons c raw ih =>
      have htail := ih (h.of_infix (List.suffix_cons c raw).isInfix)
      cases left with
      | succ left => exact htail left context
      | zero =>
          intro hinfix
          have hfront : ¬ needle.map .char <+: scan 0 context (c :: raw) :=
            fun hprefix => h (prefix_of_prefix_scan hprefix).isInfix
          obtain ⟨segment, left, next, hscan⟩ : ∃ segment left next,
              scan 0 context (c :: raw) = segment :: scan left next raw := by
            rw [scan]
            split
            · exact ⟨_, _, _, rfl⟩
            · exact ⟨_, _, _, rfl⟩
          rw [hscan] at hinfix hfront
          exact (List.infix_cons_iff.mp hinfix).elim hfront (htail left next)

/-- Segments whose plain text does not hold the name of the sentinels are honest. -/
theorem honest_of_not_infix (count : Nat)
    (h : ¬ "__MATCHER".toList.map .char <:+: segments) : Honest count segments := by
  intro part hpart hmisleading
  refine h (List.IsInfix.trans ?_ hpart)
  have hname : "__MATCHER".toList <+: sentinelFront := by decide
  cases hmisleading with
  | sentinel hnames =>
      rw [List.append_assoc]
      exact ((hname.trans (List.prefix_append _ _)).map _).isInfix
  | completed hnames hback hne =>
      rw [List.append_assoc]
      exact (((hname.trans (List.prefix_append _ _)).map _).trans
        (List.prefix_append _ _)).isInfix
  | front => exact (List.prefix_append _ _).isInfix

/-- **Text without the name of the sentinels is honest.** -/
theorem honest_of_lacks (count : Nat) (context : ScanContext) {raw : List Char}
    (h : Lacks "__MATCHER".toList raw) : Honest count (scan 0 context raw) :=
  honest_of_not_infix count (not_infix_scan h 0 context)

/-! ## Substituted text -/

/-- **The places found are the places handed out**, in order, if the raw text is honest:
no plain text is taken for a placeholder, and no placeholder is lost because of the
text around it. -/
theorem places_ofText (context : ScanContext) (raw : String) {s : Substitution}
    (hs : Substitution.ofText context raw = s)
    (h : Honest s.expressions.length (scan 0 context raw.toList)) :
    s.tokens s.text = marked 0 (scan 0 context raw.toList) ∧
      places (s.tokens s.text) = List.range s.expressions.length := by
  subst hs
  have hnone : ([] : List Char).map Segment.char <+: scan 0 context raw.toList :=
    List.nil_prefix
  have htokens : tokenize (expressionsOf (scan 0 context raw.toList)).length 0 0
      (spell 0 (scan 0 context raw.toList)) = marked 0 (scan 0 context raw.toList) :=
    tokenize_spell h (Nat.le_of_eq (Nat.zero_add _)) hnone
  have hfound : (Substitution.ofText context raw).tokens
      (Substitution.ofText context raw).text = marked 0 (scan 0 context raw.toList) := by
    simpa [Substitution.tokens, tokens, Substitution.ofText] using htokens
  refine ⟨hfound, ?_⟩
  rw [hfound, places_marked, List.range_eq_range']
  rfl

theorem places_ofText_paragraph :
    Substitution.ofText .plain "<p>\x7B\x7BanyInt\x7D\x7D, \x7B\x7Bignore\x7D\x7D</p>" =
        ⟨"<p>__MATCHER_0__, __MATCHER_1__</p>", ["anyInt", "ignore"]⟩ ∧
      Honest 2 (scan 0 .plain "<p>\x7B\x7BanyInt\x7D\x7D, \x7B\x7Bignore\x7D\x7D</p>".toList) ∧
      places (tokens 2 "<p>__MATCHER_0__, __MATCHER_1__</p>") = [0, 1] := by
  have hs : Substitution.ofText .plain
      "<p>\x7B\x7BanyInt\x7D\x7D, \x7B\x7Bignore\x7D\x7D</p>" =
        ⟨"<p>__MATCHER_0__, __MATCHER_1__</p>", ["anyInt", "ignore"]⟩ := by
    decide +kernel
  have hhonest : Honest 2
      (scan 0 .plain "<p>\x7B\x7BanyInt\x7D\x7D, \x7B\x7Bignore\x7D\x7D</p>".toList) :=
    honest_of_lacks 2 .plain (by decide +kernel)
  exact ⟨hs, hhonest, (places_ofText .plain _ hs hhonest).2⟩

/-- Plain text that looks like a sentinel is taken for one, and a placeholder behind
what a sentinel begins with is lost. -/
theorem places_misled :
    (Substitution.ofText .plain "__MATCHER_0__ \x7B\x7BanyInt\x7D\x7D" =
        ⟨"__MATCHER_0__ __MATCHER_0__", ["anyInt"]⟩ ∧
      places (tokens 1 "__MATCHER_0__ __MATCHER_0__") = [0, 0]) ∧
    Substitution.ofText .plain "__MATCHER\x7B\x7BanyInt\x7D\x7D" =
        ⟨"__MATCHER__MATCHER_0__", ["anyInt"]⟩ ∧
      places (tokens 1 "__MATCHER__MATCHER_0__") = [] := by
  decide +kernel

end Expectation.Placeholder
