import Expectation.Proofs.Regex.Denotation
import Expectation.Regex.Reading

/-!
# Patterns put together

A pattern that is written part by part is read part by part, as long as no part changes what
the one before it means.  A part in the middle of a sequence can only be told from what
follows where a repetition ends: a question mark behind it would belong to it.  So each part
is read as it stands in front of any text that does not begin with one, and begins with none.

`Row` says of a text that it is read as a sequence which denotes a language, and `Single` that
it is read as one piece, which can be repeated.  Rows follow each other, are alternatives in
a group, and make up a pattern that is tied to both ends of a text.

## Main results

* `Row.append`, `Single.optional`, `Single.star`, `Single.plus`, `Single.group`: parts put
  together.
* `row_escapeText`: an escaped text is read as itself.
* `isMatch_of_row`: what a pattern between the ends of a text matches.
-/

namespace Expectation.Regex

open Computability

/-! ## Reading step by step -/

/-- **Reading leads from one pattern to what is left of it**, in no more steps than there are
characters between them. -/
def Leads (st : State) (cs : List Char) (st' : State) (rest : List Char) : Prop :=
  ∃ n, n + rest.length ≤ cs.length ∧ ∀ fuel, readParts (fuel + n) st cs = readParts fuel st' rest

namespace Leads

variable {st st' st'' : State} {c : Char} {cs cs' rest rest' : List Char}

theorem refl (st : State) (cs : List Char) : Leads st cs st cs :=
  ⟨0, by simp, fun _ => rfl⟩

theorem trans (h : Leads st cs st' cs') (h' : Leads st' cs' st'' rest) : Leads st cs st'' rest := by
  obtain ⟨n, hn, hread⟩ := h
  obtain ⟨k, hk, hread'⟩ := h'
  refine ⟨k + n, by omega, fun fuel => ?_⟩
  rw [← Nat.add_assoc, hread, hread']

theorem step (hverbose : st.flags.verbose = false) (h : st.step c rest = some (st', rest'))
    (hle : rest'.length ≤ rest.length) : Leads st (c :: rest) st' rest' := by
  refine ⟨1, by rw [List.length_cons]; omega, fun fuel => ?_⟩
  have hskip : skip st.flags (c :: rest) = c :: rest := by simp [skip, hverbose]
  rw [readParts.eq_def]
  simp only [hskip, h]

/-- A pattern is read once reading leads to its end. -/
theorem readParts_eq (h : Leads st cs st' []) (hverbose : st'.flags.verbose = false) :
    readParts cs.length st cs = some st' := by
  obtain ⟨n, hn, hread⟩ := h
  have hskip : skip st'.flags [] = [] := by simp [skip, hverbose]
  rw [← Nat.sub_add_cancel (Nat.le_of_add_right_le hn), hread, readParts.eq_def]
  simp only [hskip]

end Leads

/-! ## The next part, by the character in front -/

/-- The characters that are not read as themselves. -/
def operators : List Char := ['(', ')', '|', '[', '?', '*', '+', '\x7B', '\\', '.', '^', '$']

namespace State

variable (st : State) {c : Char} (rest : List Char)

@[simp]
theorem step_paren : st.step '(' rest = st.openGroup rest := rfl

@[simp]
theorem step_bracket : st.step '[' rest = (bracketClass st.flags rest).map fun (b, after) =>
    (st.push (setPiece b.depth b.set), after) := rfl

@[simp]
theorem step_backslash : st.step '\\' rest = (escape st.flags rest).map fun (atom, after) =>
    (st.push (atom.piece st.flags), after) := rfl

@[simp]
theorem step_dot : st.step '.' rest =
    if st.flags.unicode then some (st.push (setPiece 0 (dotSet st.flags)), rest) else none := rfl

theorem step_plain (hc : c ∉ operators) :
    st.step c rest = some (st.push (charPiece st.flags c), rest) := by
  simp only [operators, List.mem_cons, List.not_mem_nil, or_false, not_or] at hc
  simp [State.step, hc]

end State

/-! ## Single pieces and rows -/

/-- The flags under which the dot takes every character. -/
def Flags.anyDot : Flags := { dotAll := true }

theorem verbose_anyDot {flags : Flags} (h : flags = .anyDot) : flags.verbose = false :=
  h ▸ rfl

/-- No question mark stands in front. -/
def Unmarked (cs : List Char) : Prop := cs.head? ≠ some '?'

theorem Unmarked.append {cs ds : List Char} (hc : Unmarked cs) (hd : Unmarked ds) :
    Unmarked (cs ++ ds) := by
  cases cs with
  | nil => exact hd
  | cons c cs => exact hc

/-- The state with several more items. -/
def State.pushAll (st : State) (ps : List Piece) : State :=
  { st with items := ps.reverse.map .piece ++ st.items }

theorem State.pushAll_pushAll (st : State) (ps qs : List Piece) :
    (st.pushAll ps).pushAll qs = st.pushAll (ps ++ qs) := by
  simp [pushAll]

/-- The text is read as one piece, which denotes the language. -/
structure Single (cs : List Char) (L : Language Char) : Prop where
  ne_nil : cs ≠ []
  unmarked : Unmarked cs
  reads : ∀ st rest, st.flags = .anyDot →
    ∃ p : Piece, Denotes p.regex L ∧ Leads st (cs ++ rest) (st.push p) rest

/-- The text is read as a sequence of pieces, which denotes the language. -/
structure Row (cs : List Char) (L : Language Char) : Prop where
  unmarked : Unmarked cs
  reads : ∀ st rest, st.flags = .anyDot → Unmarked rest →
    ∃ ps : List Piece, Denotes (sequence (ps.map Piece.regex)) L ∧
      Leads st (cs ++ rest) (st.pushAll ps) rest

section Row

variable {c : Char} {cs ds : List Char} {L M : Language Char}

theorem row_nil : Row [] 1 :=
  ⟨by simp [Unmarked], fun st rest _ _ => ⟨[], .empty, .refl st rest⟩⟩

theorem Single.row (h : Single cs L) : Row cs L := by
  refine ⟨h.unmarked, fun st rest hst _ => ?_⟩
  obtain ⟨p, hp, hread⟩ := h.reads st rest hst
  exact ⟨[p], hp, hread⟩

/-- **Rows follow each other.** -/
theorem Row.append (hc : Row cs L) (hd : Row ds M) : Row (cs ++ ds) (L * M) := by
  refine ⟨hc.unmarked.append hd.unmarked, fun st rest hst hrest => ?_⟩
  obtain ⟨ps, hps, hread⟩ := hc.reads st (ds ++ rest) hst (hd.unmarked.append hrest)
  obtain ⟨qs, hqs, hread'⟩ := hd.reads (st.pushAll ps) rest hst hrest
  refine ⟨ps ++ qs, ?_, ?_⟩
  · rw [List.map_append]
    exact hps.sequence_append hqs
  · rw [List.append_assoc, ← State.pushAll_pushAll]
    exact hread.trans hread'

theorem Row.congr (h : Row cs L) (hLM : ∀ m, m ∈ L ↔ m ∈ M) : Row cs M :=
  Set.ext hLM ▸ h

/-! ## Repetitions -/

theorem State.repeatLast_push {st : State} {p : Piece} {least : Nat} {most : Option Nat}
    {rest : List Char} (hrest : Unmarked rest) : (st.push p).repeatLast least most rest =
      some (st.push (p.repeated least most !st.flags.swapGreed), rest) := by
  rw [repeatLast.eq_def, push]
  cases rest with
  | nil => rfl
  | cons c rest =>
      have hc : c ≠ '?' := fun h => hrest (congrArg some h)
      simp [hc, push]

/-- A single piece with the sign of a repetition behind it. -/
theorem Single.repeated {least : Nat} {most : Option Nat} (h : Single cs L)
    (hsign : ∀ st rest, State.step st c rest = st.repeatLast least most rest)
    (hM : ∀ r, Denotes r L → Denotes (.rep least most r) M) : Row (cs ++ [c]) M := by
  have hmark : Unmarked (cs ++ [c]) := by
    obtain ⟨d, ds, rfl⟩ := List.exists_cons_of_ne_nil h.ne_nil
    exact h.unmarked
  refine ⟨hmark, fun st rest hst hrest => ?_⟩
  obtain ⟨p, hp, hread⟩ := h.reads st (c :: rest) hst
  -- what follows is no question mark, so the repetition is over behind its sign
  refine ⟨[p.repeated least most !st.flags.swapGreed], hM _ hp, ?_⟩
  have hstep := (hsign (st.push p) rest).trans (State.repeatLast_push hrest)
  rw [List.append_assoc]
  exact hread.trans (.step (verbose_anyDot hst) hstep (Nat.le_refl _))

theorem Single.optional (h : Single cs L) : Row (cs ++ ['?']) (1 + L) :=
  h.repeated (fun _ _ => rfl) fun _ => Denotes.optional

theorem Single.star (h : Single cs L) : Row (cs ++ ['*']) L∗ :=
  h.repeated (fun _ _ => rfl) fun _ => Denotes.star

theorem Single.plus (h : Single cs L) : Row (cs ++ ['+']) (L * L∗) :=
  h.repeated (fun _ _ => rfl) fun _ => Denotes.plus

end Row

/-! ## Alternatives -/

section Alternatives

variable {L M : Language Char} {items : List Item} {branches : List Piece}

/-- One of the alternatives matches if and only if the text is in the language. -/
structure AnyOf (branches : List Piece) (L : Language Char) : Prop where
  proper : ∀ p ∈ branches, p.regex.Proper
  matches_iff : ∀ l m rest, (∃ p ∈ branches, Matches p.regex l m rest) ↔ m ∈ L

theorem anyOf_nil : AnyOf [] 0 :=
  ⟨by simp, by simp [Language.notMem_zero]⟩

theorem AnyOf.cons {p : Piece} (hp : Denotes p.regex L) (h : AnyOf branches M) :
    AnyOf (p :: branches) (M + L) := by
  refine ⟨List.forall_mem_cons.mpr ⟨hp.proper, h.proper⟩, fun l m rest => ?_⟩
  rw [List.exists_mem_cons_iff, hp.matches_iff, h.matches_iff, Language.mem_add, or_comm]

theorem proper_joinBranches : (joinBranches items branches).regex.Proper ↔
    (∀ p ∈ branches, p.regex.Proper) ∧ (joinItems items).regex.Proper := by
  have hmem : ∀ p, p ∈ branches ↔ p ∈ branches.reverse := fun p => List.mem_reverse.symm
  simp only [hmem, joinBranches]
  cases branches.reverse with
  | nil => simp
  | cons first others => simp [proper_choice, or_imp, forall_and, and_assoc]

theorem matches_joinBranches {l m rest : List Char} :
    Matches (joinBranches items branches).regex l m rest ↔
      (∃ p ∈ branches, Matches p.regex l m rest) ∨ Matches (joinItems items).regex l m rest := by
  have hmem : ∀ p, p ∈ branches ↔ p ∈ branches.reverse := fun p => List.mem_reverse.symm
  simp only [hmem, joinBranches]
  cases branches.reverse with
  | nil => simp
  | cons first others => simp [matches_choice, or_and_right, exists_or, or_assoc]

theorem AnyOf.join (h : AnyOf branches M) (hlast : Denotes (joinItems items).regex L) :
    Denotes (joinBranches items branches).regex (M + L) := by
  refine ⟨proper_joinBranches.mpr ⟨h.proper, hlast.proper⟩, fun l m rest => ?_⟩
  rw [matches_joinBranches, h.matches_iff, hlast.matches_iff, Language.mem_add]

/-- A row read on an empty level is one alternative. -/
theorem joinItems_pushAll {st : State} (hitems : st.items = []) (ps : List Piece) :
    (joinItems (st.pushAll ps).items).regex = sequence (ps.map Piece.regex) := by
  simp [joinItems, piecesOf, State.pushAll, hitems, List.filterMap_map]

/-- Alternatives are read one by one, on a level that goes on. -/
theorem leads_alternatives {css : List (List Char)} {Ls : List (Language Char)}
    (h : List.Forall₂ Row css Ls) (hne : css ≠ []) (st : State) (hflags : st.flags = .anyDot)
    (hitems : st.items = []) (hbranches : AnyOf st.branches M) (rest : List Char)
    (hrest : Unmarked rest) :
    ∃ items branches,
      Leads st (List.intercalate ['|'] css ++ rest) { st with items, branches } rest ∧
        Denotes (joinBranches items branches).regex (M + Ls.sum) := by
  induction h generalizing st M with
  | nil => exact absurd rfl hne
  | @cons cs L css Ls hrow hrows ih =>
      cases hrows with
      | nil =>
          obtain ⟨ps, hps, hread⟩ := hrow.reads st rest hflags hrest
          refine ⟨(st.pushAll ps).items, st.branches, ?_, ?_⟩
          · rw [List.intercalate_singleton]
            exact hread
          · rw [List.sum_singleton]
            exact hbranches.join (joinItems_pushAll hitems ps ▸ hps)
      | cons hrow' hrows' =>
          -- the bar puts what has been read among the branches and empties the level
          rw [List.intercalate_cons_cons, List.append_assoc, List.append_assoc,
            List.singleton_append, List.sum_cons, ← add_assoc]
          obtain ⟨ps, hps, hread⟩ := hrow.reads st ('|' :: (List.intercalate ['|'] _ ++ rest))
            hflags (by simp [Unmarked])
          obtain ⟨items, branches, hread', hjoined⟩ := ih (List.cons_ne_nil _ _)
            { st with items := [], branches := joinItems (st.pushAll ps).items :: st.branches }
            hflags rfl (hbranches.cons (joinItems_pushAll hitems ps ▸ hps))
          have hbar := hread.trans (.step (verbose_anyDot hflags) rfl (Nat.le_refl _))
          exact ⟨items, branches, hbar.trans hread', hjoined⟩

/-- **Alternatives in a group** are read as one piece. -/
theorem single_group {css : List (List Char)} {Ls : List (Language Char)}
    (h : List.Forall₂ Row css Ls) (hne : css ≠ []) :
    Single ("(?:".toList ++ List.intercalate ['|'] css ++ ")".toList) Ls.sum := by
  refine ⟨by simp, by simp [Unmarked], fun st rest hst => ?_⟩
  have hopen : Leads st ('(' :: '?' :: ':' :: (List.intercalate ['|'] css ++ ')' :: rest))
      (st.enter false st.flags) (List.intercalate ['|'] css ++ ')' :: rest) := by
    refine .step (verbose_anyDot hst) ?_ (by simp only [List.length_cons]; omega)
    obtain ⟨items, branches, flags, levels, names⟩ := st
    cases hst
    rfl
  obtain ⟨items, branches, hread, hjoined⟩ := leads_alternatives h hne (st.enter false st.flags) hst
    rfl anyOf_nil (')' :: rest) (by simp [Unmarked])
  let body := joinBranches items branches
  have hclose : Leads (st.enter false st.flags) (List.intercalate ['|'] css ++ ')' :: rest)
      (st.push ⟨body.regex, body.depth + 1, body.shape⟩) rest :=
    hread.trans (.step (verbose_anyDot hst) rfl (Nat.le_refl _))
  have htext : "(?:".toList ++ List.intercalate ['|'] css ++ ")".toList ++ rest =
      '(' :: '?' :: ':' :: (List.intercalate ['|'] css ++ ')' :: rest) := by simp
  rw [htext]
  exact ⟨⟨body.regex, _, _⟩, zero_add Ls.sum ▸ hjoined, hopen.trans hclose⟩

theorem Row.group {cs : List Char} (h : Row cs L) :
    Single ("(?:".toList ++ cs ++ ")".toList) L := by
  have hgroup := single_group (.cons h .nil) (List.cons_ne_nil _ _)
  rwa [List.intercalate_singleton, List.sum_singleton] at hgroup

end Alternatives

/-! ## Characters and sets -/

section Characters

variable {c : Char} {cs : List Char} {L : Language Char} {p : Piece}

/-- What one step reads. -/
theorem Single.of_step (hc : c ≠ '?') (hp : Denotes p.regex L)
    (hstep : ∀ st rest, st.flags = .anyDot →
      State.step st c (cs ++ rest) = some (st.push p, rest)) : Single (c :: cs) L := by
  refine ⟨List.cons_ne_nil _ _, fun h => hc (Option.some.inj h), fun st rest hst => ⟨p, hp, ?_⟩⟩
  exact .step (verbose_anyDot hst) (hstep st rest hst) (by simp)

theorem letters_beq (c : Char) : letters (· == c) = {[c]} := by
  ext m
  simp only [mem_letters, beq_iff_eq, exists_eq_right]
  exact Set.mem_singleton_iff.symm

theorem isMeta_of_mem_operators : ∀ c ∈ operators, isMeta c = true :=
  List.all_eq_true.mp (by decide)

/-- A character without a meaning stands for itself. -/
theorem single_char (hc : c ∉ operators) : Single [c] {[c]} := by
  have hmark : c ≠ '?' := fun h => hc (h ▸ by decide)
  refine .of_step (p := charPiece .anyDot c) hmark ?_ fun st rest hst => ?_
  · exact letters_beq c ▸ Denotes.one _
  · rw [List.nil_append, st.step_plain rest hc, hst]

theorem escape_of_isMeta (hc : isMeta c = true) (rest : List Char) :
    escape .anyDot (c :: rest) = some (.char c, rest) := by
  revert c
  simp only [isMeta, List.contains_iff_mem, List.forall_mem_cons]
  and_intros
  all_goals first | rfl | simp

/-- A character with a meaning stands for itself behind a backslash. -/
theorem single_escaped (hc : isMeta c = true) : Single ['\\', c] {[c]} := by
  refine .of_step (p := charPiece .anyDot c) (by decide) ?_ fun st rest hst => ?_
  · exact letters_beq c ▸ Denotes.one _
  · simp [hst, escape_of_isMeta hc, Atom.piece]

theorem single_dot : Single ['.'] (letters fun _ => true) :=
  .of_step (p := setPiece 0 .full) (by decide) (.one _) fun st rest hst => by
    simp [hst, Flags.anyDot, dotSet]

theorem single_digit : Single ['\\', 'd'] (letters Unicode.isDecimalDigit) :=
  .of_step (p := setPiece 0 .decimalDigit) (by decide) (.one _) fun st rest hst => by
    rw [st.step_backslash, hst]
    rfl

theorem single_blank : Single ['\\', 's'] (letters Text.isBlank) :=
  .of_step (p := setPiece 0 .blank) (by decide) (.one _) fun st rest hst => by
    rw [st.step_backslash, hst]
    rfl

/-- A class of two characters. -/
theorem Single.pair {c d : Char} (h : ∀ rest, bracketClass .anyDot (c :: d :: ']' :: rest) =
      some (⟨(CharSet.single d).union ((CharSet.single c).union .empty), 2⟩, rest)) :
    Single ['[', c, d, ']'] (letters fun x => x == c || x == d) := by
  have haccepts : ((CharSet.single d).union ((CharSet.single c).union .empty)).accepts =
      fun x => x == c || x == d := by
    funext x
    simp [CharSet.union, CharSet.single, CharSet.empty, Bool.or_comm]
  refine .of_step (p := setPiece 2 ((CharSet.single d).union ((CharSet.single c).union .empty)))
    (by decide) ?_ fun st rest hst => ?_
  · rw [setPiece, haccepts]
    exact .one _
  · simp [hst, h]

theorem single_exponent : Single ['[', 'e', 'E', ']'] (letters fun c => c == 'e' || c == 'E') :=
  .pair fun _ => rfl

theorem single_sign : Single ['[', '+', '-', ']'] (letters fun c => c == '+' || c == '-') :=
  .pair fun _ => rfl

/-! ## Escaped texts -/

theorem singleton_mul (cs ds : List Char) : ({cs} * {ds} : Language Char) = {cs ++ ds} :=
  Set.image2_singleton

/-- **An escaped text is read as itself.** -/
theorem row_escapeText (cs : List Char) : Row (escapeText cs) {cs} := by
  induction cs with
  | nil => exact row_nil
  | cons c cs ih =>
      have hone : Row (escapeText [c]) {[c]} := by
        cases hc : isMeta c with
        | true => simpa [escapeText, hc] using (single_escaped hc).row
        | false =>
            have hplain : c ∉ operators := by
              intro hmem
              rw [isMeta_of_mem_operators c hmem] at hc
              cases hc
            simpa [escapeText, hc] using (single_char hplain).row
      have hsplit : escapeText (c :: cs) = escapeText [c] ++ escapeText cs := by simp [escapeText]
      have htexts : ({c :: cs} : Language Char) = {[c]} * {cs} := (singleton_mul [c] cs).symm
      rw [hsplit, htexts]
      exact hone.append ih

end Characters

/-! ## The whole pattern -/

/-- What an accepted pattern denotes. -/
theorem eq_of_ofPattern {pattern : String} {st : State} {r : Regex}
    (hread : readParts pattern.toList.length {} pattern.toList = some st)
    (hr : ofPattern pattern = .ok r) : r = (joinBranches st.items st.branches).regex := by
  rw [ofPattern, hread] at hr
  simp only at hr
  split at hr
  · split at hr
    · exact (Except.ok.inj hr).symm
    · cases hr
  · cases hr

/-- The state behind the flag that lets the dot take every character and the front of the
text. -/
def atFront : State :=
  { flags := .anyDot, items := [.piece (lookPiece .textStart), .setting] }

theorem leads_atFront (rest : List Char) : Leads {} ("(?s)^".toList ++ rest) atFront rest := by
  have hflags : Leads {} ('(' :: '?' :: 's' :: ')' :: '^' :: rest)
      { flags := .anyDot, items := [.setting] } ('^' :: rest) := .step rfl rfl (by simp)
  have hfront : Leads { flags := .anyDot, items := [.setting] } ('^' :: rest) atFront rest :=
    .step rfl rfl (Nat.le_refl _)
  simpa using hflags.trans hfront

/-- The state behind the end of the text, with some pieces between its ends. -/
def atEnd (ps : List Piece) : State :=
  (atFront.pushAll ps).push (lookPiece .textEnd)

theorem regex_atEnd (ps : List Piece) :
    (joinBranches (atEnd ps).items (atEnd ps).branches).regex = sequence
      (.look Look.textStart.holds :: (ps.map Piece.regex ++ [.look Look.textEnd.holds])) := by
  simp [atEnd, atFront, State.push, State.pushAll, joinBranches, joinItems, piecesOf, lookPiece,
    List.filterMap_map]

/-- **What a pattern between the ends of a text matches.** -/
theorem isMatch_of_row {body : List Char} {L : Language Char} (h : Row body L) {r : Regex}
    (hr : ofPattern (String.ofList ("(?s)^".toList ++ body ++ ['$'])) = .ok r) (text : String) :
    r.isMatch text = true ↔ text.toList ∈ L := by
  obtain ⟨ps, hps, hread⟩ := h.reads atFront ['$'] rfl (by simp [Unmarked])
  have hback : Leads (atFront.pushAll ps) ['$'] (atEnd ps) [] := .step rfl rfl (Nat.le_refl _)
  have hall := ((leads_atFront (body ++ ['$'])).trans (hread.trans hback)).readParts_eq rfl
  rw [← List.append_assoc, ← String.toList_ofList (l := "(?s)^".toList ++ body ++ ['$'])] at hall
  rw [eq_of_ofPattern hall hr, regex_atEnd, isMatch_iff hps.proper_between]
  simp only [hps.matches_between]
  constructor
  · rintro ⟨l, m, rest, htext, hl, rfl, hm⟩
    obtain rfl := List.reverse_eq_nil_iff.mp hl
    rw [htext]
    simpa using hm
  · exact fun hm => ⟨[], text.toList, [], by simp, rfl, rfl, hm⟩

end Expectation.Regex
