import Expectation.Proofs.Placeholder.Scanning
import Expectation.Proofs.Placeholder.Sentinels

/-!
# Texts without placeholders

A text in which no two opening braces follow each other has no placeholders.
Nothing in it is replaced, no sentinel is handed out, and so nothing that is
found in the document afterwards is taken for one, not even text that looks
like a sentinel.

## Main results

* `ofText_of_lacks`: nothing is replaced.
* `tokens_of_expressions_eq_nil`: nothing is found.
-/

namespace Expectation.Placeholder

open Text (Lacks)

/-- Without two opening braces in a row a scan only finds characters.  The text
may end with a brace, since nothing follows it. -/
theorem scan_of_lacks (context : ScanContext) {cs : List Char}
    (h : Lacks ['\x7B', '\x7B'] cs) : scan 0 context cs = cs.map .char := by
  induction cs generalizing context with
  | nil => rfl
  | cons c cs ih =>
      have hinner : inner? (c :: cs) = none := by
        apply inner?_eq_none
        rintro rfl hhead
        obtain ⟨rest, rfl⟩ := List.head?_eq_some_iff.mp hhead
        exact h (List.prefix_append ['\x7B', '\x7B'] rest).isInfix
      rw [scan, hinner, ite_self, ih _ (h.of_infix (List.suffix_cons c cs).isInfix)]
      rfl

/-- No sentinel is found if none was handed out. -/
theorem tokenize_zero (keep : Nat) (cs : List Char) :
    tokenize 0 0 keep cs = cs.map .char := by
  induction cs generalizing keep with
  | nil => cases keep <;> rfl
  | cons c cs ih =>
      cases keep with
      | succ keep => exact congrArg (_ :: ·) (ih keep)
      | zero =>
          have hplace : sentinelPlace? 0 ((c :: cs).drop sentinelFront.length) = none := by
            simp [sentinelPlace?]
          rw [tokenize, hplace]
          split <;> exact congrArg (_ :: ·) (ih _)

end Expectation.Placeholder

namespace Expectation.Substitution

open Placeholder
open Text (Lacks)

/-- **Nothing is replaced** in a text without two opening braces in a row. -/
theorem ofText_of_lacks (context : ScanContext) {text : String}
    (h : Lacks ['\x7B', '\x7B'] text.toList) : ofText context text = ⟨text, []⟩ := by
  have htext : spell 0 (text.toList.map .char) = text.toList := by
    simpa [spell] using spell_chars 0 text.toList []
  have hexpressions : expressionsOf (text.toList.map .char) = [] := by
    simp [expressionsOf]
  simp only [ofText, scan_of_lacks context h, htext, hexpressions, String.ofList_toList]

/-- **Nothing is found** where nothing was replaced. -/
theorem tokens_of_expressions_eq_nil {s : Substitution} (h : s.expressions = [])
    (text : String) : s.tokens text = text.toList.map .char := by
  rw [tokens, h]
  exact tokenize_zero 0 text.toList

end Expectation.Substitution
