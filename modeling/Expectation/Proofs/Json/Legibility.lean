import Expectation.Proofs.Json.Segments
import Expectation.Proofs.Text.Digits

/-!
# Trees that are written legibly

The text of a tree with matchers is legible if its strings and keys hold
nothing that a placeholder or a sentinel begins with and its matchers are
quiet.  Then filling in the expressions writes the segments of the tree, and a
scan of that text finds them again.

## Main results

* `legible_segments`: the segments of such a tree are legible.
* `toList_templateText`: the text of such a tree is what its segments stand for.
-/

namespace Expectation.Json

open Placeholder
open Text (Lacks)

/-- A string that holds no front of a placeholder and no name of a sentinel. -/
def Inert (s : String) : Prop :=
  Lacks "\x7B\x7B".toList s.toList ∧ Lacks "__MATCHER".toList s.toList

instance (s : String) : Decidable (Inert s) :=
  inferInstanceAs (Decidable (_ ∧ _))

theorem Inert.front {s : String} (h : Inert s) : Lacks sentinelFront s.toList :=
  h.2.of_needle (by decide)

/-- A leaf that is written so that it can be found again. Numbers are integers,
in the form in which they are read. -/
def Value.Writable : Value → Prop
  | .float _ => False
  | .nat n => Nat.pow 2 63 ≤ n.toNat
  | .string s => Inert s
  | .matcher m => m.HasArgument ∧ m.Quiet
  | _ => True

/-! ## Plain pieces -/

/-- The characters that plain text must not have. -/
def guarded : List Char := '"' :: '\x7B' :: sentinelFront

theorem legible_chars {cs : List Char} {rest : List Segment} (hcs : ∀ c ∈ cs, c ∉ guarded)
    (h : Legible rest) : Legible (cs.map .char ++ rest) := by
  have hfree : ∀ d ∈ guarded, d ∉ cs := fun d hd hmem => hcs d hmem hd
  refine .plain (hfree '"' (by decide)) ?_ ?_ h
  · exact Text.unpaired_of_not_mem (hfree '\x7B' (by decide))
  · intro c hc hfront
    exact hcs c hc (List.mem_cons_of_mem _ (List.mem_cons_of_mem _ hfront))

/-- A piece may begin with a brace if more text follows in it. -/
theorem legible_sign {sign : Char} {cs : List Char} {rest : List Segment}
    (hsign : sign ∉ '"' :: sentinelFront) (hne : cs ≠ []) (hcs : ∀ c ∈ cs, c ∉ guarded)
    (h : Legible rest) : Legible ((sign :: cs).map .char ++ rest) := by
  have hfree : ∀ d ∈ guarded, d ∉ cs := fun d hd hmem => hcs d hmem hd
  refine .plain ?_ ?_ ?_ h
  · intro hmem
    rcases List.mem_cons.mp hmem with heq | hmem
    · exact hsign (heq ▸ List.mem_cons_self)
    · exact hfree '"' (by decide) hmem
  · exact Text.unpaired_cons_of_not_mem (hfree '\x7B' (by decide)) hne
  · intro c hc hfront
    rcases List.mem_cons.mp hc with rfl | hc
    · exact hsign (List.mem_cons_of_mem _ hfront)
    · exact hcs c hc (List.mem_cons_of_mem _ (List.mem_cons_of_mem _ hfront))

theorem lineBreak_not_guarded (depth : Nat) : ∀ c ∈ lineBreak depth, c ∉ guarded := by
  intro c hc
  rcases List.mem_cons.mp hc with rfl | hc
  · decide
  · rw [List.eq_of_mem_replicate hc]
    decide

theorem legible_blockEnd {opening closing : Char} (depth : Nat) (empty : Bool)
    {rest : List Segment} (hopening : opening ∉ '"' :: sentinelFront)
    (hclosing : closing ∉ guarded) (h : Legible rest) :
    Legible ((blockEnd opening closing depth empty).map .char ++ rest) := by
  cases empty with
  | true =>
      refine legible_sign hopening (List.cons_ne_nil closing []) ?_ h
      intro c hc
      rwa [List.mem_singleton.mp hc]
  | false =>
      refine legible_chars (fun c hc => ?_) h
      rcases List.mem_append.mp hc with hc | hc
      · exact lineBreak_not_guarded depth c hc
      · rwa [List.mem_singleton.mp hc]

/-! ## Trees -/

theorem legible_leaf {v : Value} (hleaf : v.isLeaf = true) (h : v.Writable)
    (depth : Nat) {rest : List Segment} (hrest : Legible rest) :
    Legible (segments depth v ++ rest) := by
  have hdigits : ∀ n, ∀ c ∈ Nat.toDigits 10 n, c ∉ guarded := by
    intro n c hc hmem
    have hdigit := Text.isDigit_of_mem_toDigits hc
    have hall : ∀ d ∈ guarded, d.isDigit = false := List.all_iff_forall_prop.mp (by decide)
    exact absurd hdigit (by simp [hall c hmem])
  cases v with
  | null => exact legible_chars (List.all_iff_forall_prop.mp (by decide)) hrest
  | bool b => cases b <;> exact legible_chars (List.all_iff_forall_prop.mp (by decide)) hrest
  | int i =>
      refine legible_chars ?_ hrest
      show ∀ c ∈ (toString i.toInt).toList, _
      rw [Text.toList_toString_int]
      split
      · exact hdigits _
      · intro c hc
        rcases List.mem_cons.mp hc with rfl | hc
        · decide
        · exact hdigits _ c hc
  | nat n =>
      refine legible_chars ?_ hrest
      show ∀ c ∈ (toString n.toNat).toList, _
      rw [Text.toList_toString_nat]
      exact hdigits _
  | float x => exact absurd h id
  | string s => exact .quoted h.1 h.front hrest
  | matcher m => exact .mark (findable_expression h.1 h.2) hrest
  | array _ | object _ => exact absurd hleaf (by simp)

theorem built_legible : Built Legible (Value.Fits Value.Writable Inert) where
  line {sign depth rest} hsign h := by
    have hall : ∀ c ∈ ['[', '\x7B', ','], c ∉ '"' :: sentinelFront :=
      List.all_iff_forall_prop.mp (by decide)
    exact legible_sign (hall sign hsign) (List.cons_ne_nil _ _) (lineBreak_not_guarded depth) h
  close {opening closing depth empty rest} hbrackets h := by
    simp only [List.mem_cons, Prod.mk.injEq, List.not_mem_nil, or_false] at hbrackets
    rcases hbrackets with ⟨rfl, rfl⟩ | ⟨rfl, rfl⟩
    · exact legible_blockEnd depth empty (by decide) (by decide) h
    · exact legible_blockEnd depth empty (by decide) (by decide) h
  key {members k v rest} hpart hmem h := by
    have hfree : ∀ c ∈ [':', ' '], c ∉ guarded := List.all_iff_forall_prop.mp (by decide)
    have hkey := hpart.2 members rfl k v hmem
    exact .quoted hkey.1 hkey.front (legible_chars hfree h)
  leaf {v depth rest} hleaf hpart h := legible_leaf hleaf (hpart.1 hleaf) depth h

/-- **Such trees are written legibly.** -/
theorem legible_segments {n : Nat} {v : Value} (h : Shaped Value.Writable Inert n v)
    (depth : Nat) {rest : List Segment} (hrest : Legible rest) :
    Legible (segments depth v ++ rest) :=
  built_legible.segments h.fits depth hrest

/-- **The text of a tree.** -/
theorem toList_templateText {n : Nat} {v : Value} (h : Shaped Value.Writable Inert n v) :
    (templateText v).toList = written (segments 0 v) := by
  have hlegible : Legible (segments 0 v) := by
    have hrest := legible_segments h 0 .nil
    rwa [List.append_nil] at hrest
  exact (toList_templateText_iff v).mpr (fresh_of_lacks (lacks_written hlegible))

end Expectation.Json
