import Expectation.Proofs.Placeholder.Marking

/-!
# Putting placeholders back

Two loops belong together.  One replaces the placeholders of a raw text by sentinels, and
has to know where a placeholder ends; the other finds the sentinels again and puts the
expressions back in their place.  Between the two the text may be taken apart, so the second
loop is used on every piece of it.

What comes back is the raw text but for one thing: an expression is kept without the blanks
around it.

## Main results

* `Substitution.restore_spell`: restoring honest text writes its segments.
* `Substitution.restore_ofText`: restoring undoes replacing, but for blanks around expressions.
-/

namespace Expectation.Placeholder

/-! ## Segments of parts -/

theorem expressionsOf_map_segment (ps : List Part) :
    expressionsOf (ps.map Part.segment) = ps.filterMap Part.expression? := by
  unfold expressionsOf
  rw [List.filterMap_map]
  congr 1
  funext part
  cases part <;> rfl

/-- Segments are written as the parts they come from, but trimmed. -/
theorem written_map_segment (ps : List Part) :
    written (ps.map Part.segment) = (ps.map Part.trimmed).flatMap Part.source := by
  induction ps with
  | nil => rfl
  | cons part ps ih =>
      cases part with
      | char c => exact congrArg (c :: ·) ih
      | placeholder inner quoted => simp [Part.segment, Part.trimmed, Part.source, written, ih]

/-- Without blanks to trim the parts stay as they are. -/
theorem map_trimmed_eq_self {ps : List Part}
    (h : ∀ inner quoted, .placeholder inner quoted ∈ ps → Text.trim inner = inner) :
    ps.map Part.trimmed = ps := by
  have hself : ∀ part ∈ ps, part.trimmed = id part := by
    intro part hpart
    cases part with
    | char c => rfl
    | placeholder inner quoted =>
        rw [Part.trimmed, h inner quoted hpart]
        rfl
  exact (List.map_congr_left hself).trans (List.map_id ps)

/-- Where quotation marks mean nothing, no sentinel gets any. -/
theorem quoted_eq_false_of_mem_scan {left : Nat} {raw e : List Char} {quoted : Bool}
    (h : .placeholder e quoted ∈ scan left .plain raw) : quoted = false := by
  induction raw generalizing left with
  | nil =>
      have hnil : scan left .plain [] = [] := by cases left <;> rfl
      exact absurd (hnil ▸ h) List.not_mem_nil
  | cons c raw ih =>
      cases left with
      | succ left => exact ih h
      | zero =>
          rw [scan] at h
          split at h
          · rcases List.mem_cons.mp h with heq | h
            · exact (Segment.placeholder.inj heq).2
            · exact ih h
          · exact ih ((List.mem_cons.mp h).resolve_left (by simp))

end Expectation.Placeholder

namespace Expectation.Substitution

open Placeholder
open Text (Lacks)

/-! ## Restoring -/

/-- Segments that carry the expressions recorded from a place on, and whose sentinels get
no quotation marks. -/
structure Carries (s : Substitution) (i : Nat) (segments : List Segment) : Prop where
  le_length : i ≤ s.expressions.length
  prefix_drop : expressionsOf segments <+: s.expressions.drop i
  bare : ∀ e quoted, .placeholder e quoted ∈ segments → quoted = false

namespace Carries

variable {s : Substitution} {i : Nat} {segments rest : List Segment}

theorem of_char {c : Char} (h : s.Carries i (.char c :: rest)) : s.Carries i rest :=
  ⟨h.le_length, h.prefix_drop, fun e quoted hmem => h.bare e quoted (List.mem_cons_of_mem _ hmem)⟩

theorem getElem?_eq {e : List Char} {quoted : Bool}
    (h : s.Carries i (.placeholder e quoted :: rest)) :
    s.expressions[i]? = some (String.ofList e) := by
  obtain ⟨after, hafter⟩ := h.prefix_drop
  rw [← List.head?_drop, ← hafter]
  rfl

theorem of_placeholder {e : List Char} {quoted : Bool}
    (h : s.Carries i (.placeholder e quoted :: rest)) : s.Carries (i + 1) rest := by
  obtain ⟨hlt, -⟩ := List.getElem?_eq_some_iff.mp h.getElem?_eq
  obtain ⟨after, hafter⟩ := h.prefix_drop
  refine ⟨hlt, ⟨after, ?_⟩, fun e quoted hmem => h.bare e quoted (List.mem_cons_of_mem _ hmem)⟩
  rw [← List.tail_drop, ← hafter]
  rfl

theorem add_length_le (h : s.Carries i segments) :
    i + (expressionsOf segments).length ≤ s.expressions.length := by
  have hplaces := h.le_length
  have hlength := h.prefix_drop.length_le
  rw [List.length_drop] at hlength
  omega

/-- The sentinels of segments become their placeholders again. -/
theorem flatMap_marked (h : s.Carries i segments) {write : Token → List Char}
    (hchar : ∀ c, write (.char c) = [c])
    (hmark : ∀ i, write (.mark i) = (Matcher.brace (s.expression i)).toList) :
    (marked i segments).flatMap write = written segments := by
  induction segments generalizing i with
  | nil => rfl
  | cons segment rest ih =>
      cases segment with
      | char c =>
          rw [marked, List.flatMap_cons, hchar, ih h.of_char]
          rfl
      | placeholder e quoted =>
          obtain rfl := h.bare e quoted List.mem_cons_self
          have he : s.expression i = String.ofList e := by
            rw [expression, h.getElem?_eq, Option.getD_some]
          have htail := ih h.of_placeholder
          simp [marked, hmark, he, htail, written, Matcher.brace]

end Carries

section

variable {s : Substitution} {i : Nat} {segments : List Segment}

/-- In honest text the sentinels of the segments are found. -/
theorem tokens_spell (h : s.Carries i segments) (hhonest : Honest s.expressions.length segments) :
    s.tokens (String.ofList (spell i segments)) = marked i segments := by
  have hnone : ([] : List Char).map Segment.char <+: segments := List.nil_prefix
  rw [tokens, Placeholder.tokens, String.toList_ofList]
  exact tokenize_spell hhonest h.add_length_le hnone

/-- **Restoring honest text writes its segments.** -/
theorem restore_spell (h : s.Carries i segments)
    (hhonest : Honest s.expressions.length segments) :
    s.restore (String.ofList (spell i segments)) = String.ofList (written segments) := by
  rw [restore, tokens_spell h hhonest]
  exact congrArg String.ofList (h.flatMap_marked (fun _ => rfl) fun _ => rfl)

end

/-- **Restoring undoes replacing.**  The parts of a raw text spell it, its recorded
expressions are theirs, and what is restored is the raw text with what stands between the
braces trimmed; so it is the raw text if there are no blanks to trim. -/
theorem restore_ofText {raw : String} (h : Lacks "__MATCHER".toList raw.toList) :
    (parts 0 .plain raw.toList).flatMap Part.source = raw.toList ∧
      (parts 0 .plain raw.toList).filterMap Part.expression? =
        (ofText .plain raw).expressions ∧
      ((ofText .plain raw).restore (ofText .plain raw).text).toList =
        ((parts 0 .plain raw.toList).map Part.trimmed).flatMap Part.source ∧
      ((∀ inner quoted, .placeholder inner quoted ∈ parts 0 .plain raw.toList →
          Text.trim inner = inner) →
        (ofText .plain raw).restore (ofText .plain raw).text = raw) := by
  have hexpressions : (ofText .plain raw).expressions =
      expressionsOf (scan 0 .plain raw.toList) := rfl
  have htext : (ofText .plain raw).text = String.ofList (spell 0 (scan 0 .plain raw.toList)) := rfl
  have hcarries : (ofText .plain raw).Carries 0 (scan 0 .plain raw.toList) := by
    refine ⟨Nat.zero_le _, ?_, fun e quoted => quoted_eq_false_of_mem_scan⟩
    rw [hexpressions, List.drop_zero]
  have hrestore : ((ofText .plain raw).restore (ofText .plain raw).text).toList =
      ((parts 0 .plain raw.toList).map Part.trimmed).flatMap Part.source := by
    have hwritten := restore_spell hcarries (honest_of_lacks _ .plain h)
    rw [scan_eq_map_parts, written_map_segment, ← scan_eq_map_parts] at hwritten
    rw [htext, hwritten, String.toList_ofList]
  refine ⟨flatMap_source_parts .plain raw.toList, ?_, hrestore, fun htrim => ?_⟩
  · rw [hexpressions, scan_eq_map_parts, expressionsOf_map_segment]
  · rw [← String.toList_inj, hrestore, map_trimmed_eq_self htrim, flatMap_source_parts]

/-- Blanks around an expression are lost, those between empty braces and after braces that
are never closed are not. -/
theorem restore_ofText_paragraph :
    Lacks "__MATCHER".toList
        "<p>\x7B\x7B anyInt \x7D\x7D, \x7B\x7B \x7D\x7D \x7B\x7B a</p>".toList ∧
      ((ofText .plain
          "<p>\x7B\x7B anyInt \x7D\x7D, \x7B\x7B \x7D\x7D \x7B\x7B a</p>").restore
        (ofText .plain
          "<p>\x7B\x7B anyInt \x7D\x7D, \x7B\x7B \x7D\x7D \x7B\x7B a</p>").text).toList =
        "<p>\x7B\x7BanyInt\x7D\x7D, \x7B\x7B \x7D\x7D \x7B\x7B a</p>".toList := by
  have hlacks : Lacks "__MATCHER".toList
      "<p>\x7B\x7B anyInt \x7D\x7D, \x7B\x7B \x7D\x7D \x7B\x7B a</p>".toList := by
    decide +kernel
  obtain ⟨-, -, hrestored, -⟩ := restore_ofText hlacks
  exact ⟨hlacks, hrestored.trans (by decide +kernel)⟩

end Expectation.Substitution
