import Expectation.Html.Expected
import Expectation.Proofs.Json.Origin
import Expectation.Proofs.Json.Tree
import Expectation.Proofs.Placeholder.Sentinels

/-!
# Why expected documents are refused

An expected JSON document is refused because the text with the sentinels is not JSON, or
because a string of it that is just one sentinel has an expression that denotes no matcher.
Keys and longer strings are put back as they were, whatever their placeholders hold.

The search for sentinels finds only places that were handed out, so no document of either
format is refused for a place that was not.

## Main results

* `Json.resolve_eq_error`: an error of a tree is that of a string in it.
* `Html.exists_of_readExpected_eq_error`: an error of a page is that of an expression.
* `outcome_readExpected`: how the reading of an expected document ends.
-/

namespace Expectation

/-! ## Places -/

/-- The only error at a place that was handed out is that of its expression. -/
theorem Substitution.matcher_eq_error {s : Substitution} {i : Nat} {error : DocumentError}
    (hi : i < s.expressions.length) (h : s.matcher i = .error error) :
    ∃ e reason, s.expressions[i]? = some e ∧ Matcher.ofExpression e = .error reason ∧
      error = .matcher e reason := by
  unfold matcher at h
  split at h
  · next hnone =>
    rw [List.getElem?_eq_none_iff] at hnone
    exact absurd hi (Nat.not_lt.mpr hnone)
  · next e he =>
    split at h
    · contradiction
    · next reason hreason => exact ⟨e, reason, he, hreason, (Except.error.inj h).symm⟩

/-! ## JSON -/

namespace Json

variable {s : Substitution} {error : DocumentError}

/-- A string of a tree that is just one sentinel has an expression that denotes no
matcher. -/
def Rejects (s : Substitution) (v : Value) (e : String) (reason : Matcher.ExpressionError) :
    Prop :=
  ∃ text i, .string text ∈ v.parts ∧ s.Names i text ∧ s.expressions[i]? = some e ∧
    Matcher.ofExpression e = .error reason

/-- **An error of a tree is that of a string in it** that is just one sentinel. -/
theorem resolve_eq_error {v : Value} (h : resolve s v = .error error) :
    ∃ text i, .string text ∈ v.parts ∧ s.Names i text ∧ s.matcher i = .error error := by
  induction v with
  | null | bool b | int i | nat n | float x | matcher m => cases h
  | string text =>
      rw [resolve] at h
      split at h
      · next i hwhole =>
        exact ⟨text, i, Value.self_mem_parts _, Substitution.whole?_eq_some_iff.mp hwhole,
          eq_error_of_map h⟩
      · cases h
  | array items ih =>
      obtain ⟨v, hv, hverror⟩ := resolveItems_eq_error (eq_error_of_map h)
      obtain ⟨text, i, htext, herror⟩ := ih v hv hverror
      exact ⟨text, i,
        List.mem_cons_of_mem _ ((Value.mem_itemParts _ items).mpr ⟨v, hv, htext⟩), herror⟩
  | object members ih =>
      obtain ⟨k, v, hv, hverror⟩ := resolveMembers_eq_error (eq_error_of_map h)
      obtain ⟨text, i, htext, herror⟩ := ih k v hv hverror
      exact ⟨text, i,
        List.mem_cons_of_mem _ ((Value.mem_memberParts _ members).mpr ⟨k, v, hv, htext⟩),
        herror⟩

theorem rejects_of_resolve {v : Value} (h : resolve s v = .error error) :
    ∃ e reason, error = .matcher e reason ∧ Rejects s v e reason := by
  obtain ⟨text, i, htext, hnames, herror⟩ := resolve_eq_error h
  obtain ⟨e, reason, he, hreason, rfl⟩ := Substitution.matcher_eq_error hnames.1 herror
  exact ⟨e, reason, rfl, text, i, htext, hnames, he, hreason⟩

/-- In a tree that is resolved every string that is just one sentinel has a matcher. -/
theorem exists_matcher_of_resolve {v w : Value} (h : resolve s v = .ok w) {text : String}
    {i : Nat} (htext : .string text ∈ v.parts) (hnames : s.Names i text) :
    ∃ m, s.matcher i = .ok m := by
  induction v generalizing w with
  | null | bool b | int n | nat n | float x | matcher m =>
      exact absurd (List.mem_singleton.mp htext) (by simp)
  | string other =>
      obtain rfl := Value.string.inj (List.mem_singleton.mp htext)
      rw [resolve, Substitution.whole?_eq_some_iff.mpr hnames] at h
      obtain ⟨m, hm, -⟩ := exists_ok_of_map h
      exact ⟨m, hm⟩
  | array items ih =>
      obtain ⟨ws, hws, -⟩ := exists_ok_of_map h
      obtain ⟨v, hv, htext⟩ := (Value.mem_itemParts _ items).mp
        ((List.mem_cons.mp htext).resolve_left (by simp))
      obtain ⟨u, -, hu⟩ := exists_right_of_forall₂ (resolveItems_eq_ok_iff.mp hws) hv
      exact ih v hv hu htext
  | object members ih =>
      obtain ⟨ws, hws, -⟩ := exists_ok_of_map h
      obtain ⟨k, v, hv, htext⟩ := (Value.mem_memberParts _ members).mp
        ((List.mem_cons.mp htext).resolve_left (by simp))
      obtain ⟨u, -, -, hu⟩ := exists_right_of_forall₂ (resolveMembers_eq_ok_iff.mp hws) hv
      exact ih k v hv hu htext

theorem not_rejects_of_resolve {v w : Value} (h : resolve s v = .ok w) (e : String)
    (reason : Matcher.ExpressionError) : ¬ Rejects s v e reason := by
  rintro ⟨text, i, htext, hnames, he, hreason⟩
  obtain ⟨m, hm⟩ := exists_matcher_of_resolve h htext hnames
  rw [Substitution.matcher, he] at hm
  dsimp only at hm
  rw [hreason] at hm
  cases hm

/-- A document that is JSON is refused for a string that is just one sentinel. -/
theorem rejects_of_readExpected {text : String} {v : Value}
    (hv : readString (Substitution.ofText .value text).text = .ok v)
    (h : readExpected text = .error error) :
    ∃ e reason, error = .matcher e reason ∧
      Rejects (Substitution.ofText .value text) v e reason := by
  rw [readExpected_of_readString hv] at h
  exact rejects_of_resolve (eq_error_of_map h)

/-- A document with such a string is refused. -/
theorem exists_error_of_rejects {text : String} {v : Value} {e : String}
    {reason : Matcher.ExpressionError}
    (hv : readString (Substitution.ofText .value text).text = .ok v)
    (h : Rejects (Substitution.ofText .value text) v e reason) :
    ∃ error, readExpected text = .error error := by
  rw [readExpected_of_readString hv]
  cases hresolve : resolve (Substitution.ofText .value text) v with
  | error error => exact ⟨error, rfl⟩
  | ok w => exact absurd h (not_rejects_of_resolve hresolve e reason)

/-- How the reading of a document ends that is JSON. -/
theorem outcome_of_readString {text : String} {v : Value}
    (hv : readString (Substitution.ofText .value text).text = .ok v) :
    ((∃ e reason, readExpected text = .error (.matcher e reason)) ↔
      ∃ e reason, Rejects (Substitution.ofText .value text) v e reason) ∧
    (∀ e reason, readExpected text = .error (.matcher e reason) →
      Rejects (Substitution.ofText .value text) v e reason) ∧
    ((∃ d, readExpected text = .ok d) ↔
      ∀ e reason, ¬ Rejects (Substitution.ofText .value text) v e reason) := by
  have hcarries : ∀ e reason, readExpected text = .error (.matcher e reason) →
      Rejects (Substitution.ofText .value text) v e reason := by
    intro e reason h
    obtain ⟨e', reason', heq, hrejects⟩ := rejects_of_readExpected hv h
    cases heq
    exact hrejects
  refine ⟨⟨?_, ?_⟩, hcarries, ⟨?_, ?_⟩⟩
  · rintro ⟨e, reason, h⟩
    exact ⟨e, reason, hcarries e reason h⟩
  · rintro ⟨e, reason, hrejects⟩
    obtain ⟨error, herror⟩ := exists_error_of_rejects hv hrejects
    obtain ⟨e', reason', rfl, -⟩ := rejects_of_readExpected hv herror
    exact ⟨e', reason', herror⟩
  · rintro ⟨d, hd⟩ e reason hrejects
    obtain ⟨error, herror⟩ := exists_error_of_rejects hv hrejects
    cases hd.symm.trans herror
  · intro hnone
    cases hread : readExpected text with
    | ok d => exact ⟨d, rfl⟩
    | error error =>
        obtain ⟨e, reason, -, hrejects⟩ := rejects_of_readExpected hv hread
        exact absurd hrejects (hnone e reason)

/-- No place is named that was not handed out. -/
theorem readExpected_ne_unknownPlaceholder (text place : String) :
    readExpected text ≠ .error (.unknownPlaceholder place) := by
  intro h
  cases hread : readString (Substitution.ofText .value text).text with
  | error fault => cases (readExpected_of_readString_error hread).symm.trans h
  | ok v =>
      obtain ⟨e, reason, heq, -⟩ := rejects_of_readExpected hread h
      cases heq

/-- An expected document is refused as JSON if the text with the sentinels is not JSON. -/
theorem readExpected_eq_json_iff (text : String) (fault : Located) :
    readExpected text = .error (.json fault) ↔
      readString (Substitution.ofText .value text).text = .error fault := by
  cases hread : readString (Substitution.ofText .value text).text with
  | error other =>
      rw [readExpected_of_readString_error hread]
      simp
  | ok v =>
      constructor
      · intro h
        obtain ⟨e, reason, heq, -⟩ := rejects_of_readExpected hread h
        cases heq
      · intro h
        cases h

end Json

/-! ## Pages -/

namespace Html

variable {ε : Type} {resolve : String → Except ε Value} {error : ε}

theorem exists_of_resolveAttributes_eq_error {as : List Attribute}
    (h : resolveAttributes resolve as = .error error) : ∃ raw, resolve raw = .error error := by
  induction as with
  | nil => cases h
  | cons a as ih =>
      rw [resolveAttributes] at h
      split at h
      · next he =>
        cases h
        exact ⟨a.value, he⟩
      · exact ih (Json.eq_error_of_map h)

mutual

/-- An error of a part of a page is that of a text or an attribute value. -/
theorem exists_of_node_eq_error {parent : String} {seen : List String} (t : Tree)
    (h : Tree.node resolve parent seen t = .error error) : ∃ raw, resolve raw = .error error := by
  cases t with
  | element tag attributes children =>
      rw [Tree.node] at h
      split at h
      · next he =>
        cases h
        exact exists_of_resolveAttributes_eq_error he
      · exact exists_of_nodes_eq_error children (Json.eq_error_of_map h)
  | text raw => exact ⟨raw, Json.eq_error_of_map h⟩
  | comment text => cases h
  | doctype name => cases h

/-- An error of parts of a page is that of a text or an attribute value. -/
theorem exists_of_nodes_eq_error {parent : String} {seen : List String} (ts : List Tree)
    (h : Tree.nodes resolve parent seen ts = .error error) : ∃ raw, resolve raw = .error error := by
  cases ts with
  | nil => cases h
  | cons t ts =>
      rw [Tree.nodes] at h
      split at h
      · next he =>
        cases h
        exact exists_of_node_eq_error t he
      · exact exists_of_nodes_eq_error ts (Json.eq_error_of_map h)

end

/-- Texts and attribute values are refused for an expression only. -/
theorem exists_of_resolve_eq_error {s : Substitution} {raw : String} {error : DocumentError}
    (h : Html.resolve s raw = .error error) : ∃ e reason, error = .matcher e reason := by
  unfold Html.resolve at h
  dsimp only at h
  split at h
  · cases h
  · split at h
    · next i hwhole =>
      obtain ⟨hi, -⟩ := Substitution.whole?_eq_some_iff.mp hwhole
      have hmatcher : s.matcher i = .error error := Json.eq_error_of_map h
      obtain ⟨e, reason, -, -, herror⟩ := Substitution.matcher_eq_error hi hmatcher
      exact ⟨e, reason, herror⟩
    · split at h
      · cases h
      · split at h
        · cases h
        · exact ⟨_, _, (Except.error.inj h).symm⟩

/-- Expected pages are refused for an expression only. -/
theorem exists_of_readExpected_eq_error {text : String} {error : DocumentError}
    (h : readExpected text = .error error) : ∃ e reason, error = .matcher e reason := by
  unfold readExpected wrap at h
  have hnodes := Json.eq_error_of_map (Json.eq_error_of_map h)
  obtain ⟨raw, hraw⟩ := exists_of_nodes_eq_error _ hnodes
  exact exists_of_resolve_eq_error hraw

end Html

/-! ## Both formats -/

/-- **How the reading of an expected document ends.**  A JSON document is refused as such
if the text with the sentinels is not JSON.  If it is, the document is refused for an
expression if some string of it, keys apart, is just one sentinel, but for zeros in front
of the number, and the expression of that place denotes no matcher; the error tells such an
expression.  Otherwise it is read.  No document of either format is refused for a place that
was not handed out. -/
theorem outcome_readExpected (text : String) :
    (∀ fault, Json.readExpected text = .error (.json fault) ↔
      Json.readString (Substitution.ofText .value text).text = .error fault) ∧
    (∀ v, Json.readString (Substitution.ofText .value text).text = .ok v →
      ((∃ e reason, Json.readExpected text = .error (.matcher e reason)) ↔
        ∃ e reason, Json.Rejects (Substitution.ofText .value text) v e reason) ∧
      (∀ e reason, Json.readExpected text = .error (.matcher e reason) →
        Json.Rejects (Substitution.ofText .value text) v e reason) ∧
      ((∃ d, Json.readExpected text = .ok d) ↔
        ∀ e reason, ¬ Json.Rejects (Substitution.ofText .value text) v e reason)) ∧
    (∀ place, Json.readExpected text ≠ .error (.unknownPlaceholder place)) ∧
    ∀ place, Html.readExpected text ≠ .error (.unknownPlaceholder place) := by
  refine ⟨Json.readExpected_eq_json_iff text, fun v hv => Json.outcome_of_readString hv,
    Json.readExpected_ne_unknownPlaceholder text, fun place hplace => ?_⟩
  obtain ⟨e, reason, heq⟩ := Html.exists_of_readExpected_eq_error hplace
  cases heq

/-- The expression in a longer string is none of the document. -/
theorem outcome_readExpected_partial :
    ∃ v, Json.readString (Substitution.ofText .value
        "[\"a\x7B\x7Bfoo\x7D\x7D\", \x7B\x7BanyInt\x7D\x7D]").text = .ok v ∧
      ∀ e reason, ¬ Json.Rejects (Substitution.ofText .value
        "[\"a\x7B\x7Bfoo\x7D\x7D\", \x7B\x7BanyInt\x7D\x7D]") v e reason := by
  obtain ⟨v, hv, -⟩ : ∃ v, Json.readString (Substitution.ofText .value
      "[\"a\x7B\x7Bfoo\x7D\x7D\", \x7B\x7BanyInt\x7D\x7D]").text = .ok v ∧ v.parts.length = 3 :=
    Json.exists_ok_of_any (by decide +kernel)
  obtain ⟨d, hd, -⟩ : ∃ d, Json.readExpected
      "[\"a\x7B\x7Bfoo\x7D\x7D\", \x7B\x7BanyInt\x7D\x7D]" = .ok d ∧
        d.root.parts.length = 3 :=
    Json.exists_ok_of_any (by decide +kernel)
  obtain ⟨-, hjson, -⟩ := outcome_readExpected
    "[\"a\x7B\x7Bfoo\x7D\x7D\", \x7B\x7BanyInt\x7D\x7D]"
  obtain ⟨-, -, hread⟩ := hjson v hv
  exact ⟨v, hv, hread.mp ⟨d, hd⟩⟩

/-- **A string that is no sentinel can be refused**, for a sentinel with a zero in front of
its number. -/
theorem refused_for_zero :
    ¬ ∀ text v, Json.readString (Substitution.ofText .value text).text = .ok v →
      ((∃ e reason, Json.readExpected text = .error (.matcher e reason)) ↔
        ∃ i e reason, .string (String.ofList (Placeholder.sentinel i)) ∈ v.parts ∧
          (Substitution.ofText .value text).expressions[i]? = some e ∧
          Matcher.ofExpression e = .error reason) := by
  intro hexact
  obtain ⟨v, hv, hparts⟩ : ∃ v, Json.readString
      (Substitution.ofText .value "[\"__MATCHER_00__\", \"x\x7B\x7Bfoo\x7D\x7D\"]").text = .ok v ∧
        v.parts.all (fun w => w.string? != some "__MATCHER_0__") = true :=
    Json.exists_ok_of_any (by decide +kernel)
  have hexpressions : (Substitution.ofText .value
      "[\"__MATCHER_00__\", \"x\x7B\x7Bfoo\x7D\x7D\"]").expressions = ["foo"] := by
    decide +kernel
  have hrefused : (Json.readExpected
      "[\"__MATCHER_00__\", \"x\x7B\x7Bfoo\x7D\x7D\"]").toOption.isNone = true := by
    decide +kernel
  cases hread : Json.readExpected "[\"__MATCHER_00__\", \"x\x7B\x7Bfoo\x7D\x7D\"]" with
  | ok d =>
      rw [hread] at hrefused
      cases hrefused
  | error error =>
      obtain ⟨e, reason, rfl, -⟩ := Json.rejects_of_readExpected hv hread
      obtain ⟨i, e', reason', hmem, he, -⟩ := (hexact _ v hv).mp ⟨e, reason, hread⟩
      rw [hexpressions] at he
      cases i with
      | zero => exact absurd (List.all_eq_true.mp hparts _ hmem) (by decide)
      | succ i => cases he

end Expectation
