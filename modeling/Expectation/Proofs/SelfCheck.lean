import Expectation.Html.Check
import Expectation.Json.Check
import Expectation.Proofs.Html.SelfAdmission
import Expectation.Proofs.Json.Origin
import Expectation.Proofs.Placeholder.Absent
import Expectation.Proofs.Text.Encoding

/-!
# A document checked against itself

Expected and actual documents are read in different ways: the one is a text that
is searched for placeholders before and after it is read, the other comes as
bytes that are read as they are.  For a text without placeholders the two ways
lead to the same tree.  Nothing is replaced in it, so nothing is put back later,
and the bytes of a text spell the text.  The tree is literal, and the comparison
has nothing against it under any options.

For pages this does not depend on how texts are parsed; `checkWith` is the check
with any parser in place of the one that is used.

## Main results

* `Json.readExpected_of_lacks`, `Html.resolve_of_expressions_eq_nil`: without
  placeholders, expected documents are read like actual ones.
* `check_self`: a document checked against itself matches.
-/

namespace Expectation

open Text (Lacks utf8)

/-! ## Verdicts -/

/-- Without differences there is nothing to show. -/
theorem Verdict.ofDifferences_nil (format : Format) (inlineDiff : Unit → String) :
    Verdict.ofDifferences format [] inlineDiff = ⟨[], none, ""⟩ := by
  simp [Verdict.ofDifferences, Difference.sort]

/-- The differences of a verdict are the sorted ones. -/
theorem Verdict.differences_ofDifferences (format : Format) (found : List Difference)
    (inlineDiff : Unit → String) :
    (Verdict.ofDifferences format found inlineDiff).differences = Difference.sort found := by
  unfold Verdict.ofDifferences
  split
  · next h => exact h.symm
  · rfl

/-- The summary of a verdict lists its differences. -/
theorem Verdict.summary_ofDifferences (format : Format) (found : List Difference)
    (inlineDiff : Unit → String) :
    (Verdict.ofDifferences format found inlineDiff).summary =
      Report.listing format (Difference.sort found) := by
  unfold Verdict.ofDifferences
  split
  · next h =>
      rw [h]
      rfl
  · rfl

/-- **There is nothing to show** exactly without differences. -/
theorem Verdict.ofDifferences_eq_nil_iff {format : Format} {found : List Difference}
    {inlineDiff : Unit → String} :
    Verdict.ofDifferences format found inlineDiff = ⟨[], none, ""⟩ ↔ found = [] := by
  constructor
  · intro h
    have hsorted : Difference.sort found = [] := by
      rw [← Verdict.differences_ofDifferences format found inlineDiff, h]
    have hperm := List.mergeSort_perm found Difference.atOrBefore
    rw [← Difference.sort, hsorted] at hperm
    exact List.nil_perm.mp hperm
  · rintro rfl
    exact Verdict.ofDifferences_nil format inlineDiff

/-! ## JSON documents -/

namespace Json

section Resolve

variable {s : Substitution}

/-- **Without placeholders nothing is resolved**, whatever the texts of the tree
look like. -/
theorem resolve_of_expressions_eq_nil (hs : s.expressions = []) {v : Value}
    (h : v.Canonical) : resolve s v = .ok v := by
  have htokens := Substitution.tokens_of_expressions_eq_nil hs
  induction v with
  | string text =>
      rw [resolve, Substitution.whole?_of_tokens (htokens text),
        Substitution.restore_of_tokens (htokens text)]
  | array items ih =>
      have hitems : resolveItems s items = .ok items :=
        resolveItems_eq_ok_iff.mpr (List.forall₂_same.mpr fun v hv => ih v hv (h.items v hv))
      rw [resolve, hitems]
      rfl
  | object members ih =>
      have hmembers : resolveMembers s members = .ok members :=
        resolveMembers_eq_ok_iff.mpr (List.forall₂_same.mpr fun m hm =>
          ⟨Substitution.restore_of_tokens (htokens m.1),
            ih m.1 m.2 hm (h.members m.1 m.2 hm)⟩)
      rw [resolve, hmembers]
      exact congrArg (fun ms => Except.ok (Value.object ms)) (ofPairs_of_ascending h.ascending)
  | _ => rfl

end Resolve

/-- The bytes of a text are read as the text. -/
theorem readBytes_utf8 (text : String) : readBytes (utf8 text) = readString text := by
  rw [readBytes, Text.symbols_utf8]
  rfl

/-- A text that is read as an actual document is JSON. -/
theorem readString_of_readActual {text : String} {v : Value}
    (hv : readActual (utf8 text) = .ok v) : readString text = .ok v := by
  rw [readActual, readBytes_utf8] at hv
  split at hv
  · exact absurd hv (by simp)
  · next w hw =>
      cases hv
      exact hw

/-- **A text without placeholders** that is read as an actual document is read as
the same tree in place of an expected one. -/
theorem readExpected_of_lacks {text : String} (h : Lacks ['\x7B', '\x7B'] text.toList)
    {v : Value} (hv : readString text = .ok v) :
    readExpected text = .ok ⟨v, ⟨text, []⟩⟩ := by
  have hresolve : resolve ⟨text, []⟩ v = .ok v :=
    resolve_of_expressions_eq_nil rfl (literal_read hv).canonical
  have htext := Substitution.ofText_of_lacks .value h
  have hread : readString (Substitution.ofText .value text).text = .ok v := by
    rw [htext]
    exact hv
  rw [readExpected_of_readString hread, htext, hresolve]
  rfl

/-- A JSON document checked against itself matches. -/
theorem check_eq_ok_of_lacks {text : String} (h : Lacks ['\x7B', '\x7B'] text.toList)
    {v : Value} (hv : readActual (utf8 text) = .ok v) (o : Options) (p : Report.Palette) :
    check text (utf8 text) o p = .ok ⟨[], none, ""⟩ := by
  have hstring := readString_of_readActual hv
  have hjudge : judge o p v v = ⟨[], none, ""⟩ := by
    rw [judge, compare_literal_self o (literal_read hstring), Verdict.ofDifferences_nil]
  simp only [check, readExpected_of_lacks h hstring, hv]
  exact congrArg Except.ok hjudge

end Json

/-! ## Pages -/

namespace Html

theorem any_isMark_pieces_chars (cs : List Char) :
    (Placeholder.pieces (cs.map .char)).any isMark = false := by
  induction cs with
  | nil => rfl
  | cons c cs ih =>
      rw [List.map_cons, Placeholder.pieces]
      split
      · next ds ps hps =>
          rw [hps] at ih
          exact ih
      · exact ih

/-- **Without placeholders everything is literal**, whatever the texts of the
page look like. -/
theorem resolve_of_expressions_eq_nil {s : Substitution} (hs : s.expressions = []) :
    resolve s = resolveLiteral := by
  funext raw
  have hnone : (Placeholder.pieces (s.tokens raw)).any isMark = false := by
    rw [Substitution.tokens_of_expressions_eq_nil hs]
    exact any_isMark_pieces_chars raw.toList
  simp only [resolve, hnone]
  rfl

/-- The check of pages with any parser. -/
def checkWith (parse : String → List Tree) (expectedText : String) (actual : List UInt8)
    (o : Options) (p : Report.Palette) : Except DocumentError Verdict :=
  let s := Substitution.ofText .plain expectedText
  match wrap (resolve s) (parse s.text) with
  | .error e => .error e
  | .ok expected =>
    match Text.decode actual with
    | .error (offset, fault) => .error (.encoding offset fault)
    | .ok text => (wrap resolveLiteral (parse text)).map (judge o p expected)

/-- The check is the one with the parser that follows the standard. -/
theorem check_eq_checkWith : check = checkWith Tree.ofText := by
  funext expectedText actual o p
  have hactual : ∀ text, readActualText text = wrap resolveLiteral (Tree.ofText text) :=
    fun _ => rfl
  unfold check checkWith readExpected readActual
  simp only [hactual]
  -- the parser has to stay closed: what is left to see concerns the plumbing only
  generalize Tree.ofText = parse
  generalize Substitution.ofText .plain expectedText = s
  cases wrap (resolve s) (parse s.text) with
  | error e => rfl
  | ok expected =>
      cases Text.decode actual with
      | error fault => rfl
      | ok text => rfl

/-- A page checked against itself matches, however it is parsed. -/
theorem checkWith_eq_ok_of_lacks (parse : String → List Tree) {text : String}
    (h : Lacks ['\x7B', '\x7B'] text.toList) (o : Options) (p : Report.Palette) :
    checkWith parse text (utf8 text) o p = .ok ⟨[], none, ""⟩ := by
  obtain ⟨n, hn, hliteral⟩ := literal_wrap (parse text)
  have hjudge : judge o p n n = ⟨[], none, ""⟩ := by
    rw [judge, compare_literal_self o hliteral, Verdict.ofDifferences_nil]
  have hresolve : resolve ⟨text, []⟩ = resolveLiteral := resolve_of_expressions_eq_nil rfl
  simp only [checkWith, Substitution.ofText_of_lacks .plain h, hresolve, Text.decode_utf8, hn]
  exact congrArg Except.ok hjudge

end Html

/-! ## Both formats -/

/-- **A document checked against itself matches.**  A text without placeholders
that is read as JSON matches itself under all options, and as a page any text
without placeholders does, even if another parser is used. -/
theorem check_self {text : String} (h : Lacks ['\x7B', '\x7B'] text.toList) :
    ((∃ v, Json.readActual (utf8 text) = .ok v) → ∀ (o : Json.Options) (p : Report.Palette),
      Json.check text (utf8 text) o p = .ok ⟨[], none, ""⟩) ∧
    (∀ (o : Html.Options) (p : Report.Palette),
      Html.check text (utf8 text) o p = .ok ⟨[], none, ""⟩) ∧
    (∀ (parse : String → List Html.Tree) (o : Html.Options) (p : Report.Palette),
      Html.checkWith parse text (utf8 text) o p = .ok ⟨[], none, ""⟩) := by
  refine ⟨?_, ?_, fun parse => Html.checkWith_eq_ok_of_lacks parse h⟩
  · rintro ⟨v, hv⟩ o p
    exact Json.check_eq_ok_of_lacks h hv o p
  · intro o p
    rw [Html.check_eq_checkWith]
    exact Html.checkWith_eq_ok_of_lacks Html.Tree.ofText h o p

/-- A text with what looks like a sentinel, compared in any order and without
its first item. -/
theorem check_self_sentinel :
    Lacks ['\x7B', '\x7B'] "[1, \"__MATCHER_0__\"]".toList ∧
      (∃ v, Json.readActual (utf8 "[1, \"__MATCHER_0__\"]") = .ok v) ∧
      Json.check "[1, \"__MATCHER_0__\"]" (utf8 "[1, \"__MATCHER_0__\"]")
        ⟨true, [], ["$[0]"]⟩ {} = .ok ⟨[], none, ""⟩ ∧
      Html.check "[1, \"__MATCHER_0__\"]" (utf8 "[1, \"__MATCHER_0__\"]")
        { ignoreChildOrder := true } {} = .ok ⟨[], none, ""⟩ := by
  have hplain : Lacks ['\x7B', '\x7B'] "[1, \"__MATCHER_0__\"]".toList := by decide +kernel
  obtain ⟨v, hv, -⟩ : ∃ v,
      Json.readActual (utf8 "[1, \"__MATCHER_0__\"]") = .ok v ∧ v.matcher? = none :=
    Json.exists_ok_of_any (by decide +kernel)
  obtain ⟨hjson, hhtml, -⟩ := check_self hplain
  exact ⟨hplain, ⟨v, hv⟩, hjson ⟨v, hv⟩ _ _, hhtml _ _⟩

end Expectation
