import Expectation.Proofs.Json.Telling
import Expectation.Proofs.LineDiff

/-!
# A mismatch is visible in the inline diff

The inline diff compares the lines of two texts, and the texts are written from the trees
without regard to the comparison.  Still it shows something whenever a difference between
literal documents is reported: the lines tell the texts, the texts tell the trees, and
nothing is reported between trees that are the same.

The texts have no carriage returns and do not end with a line, so no line loses anything.

## Main results

* `eq_of_lines_pretty_eq`: trees are written alike if their lines are.
* `exists_edit_of_compare_ne_nil`: a reported difference changes a line.
-/

namespace Expectation.Json

/-! ## Characters of a text -/

/-- No escape has a control character in it. -/
theorem le_of_mem_escapeChar {c d : Char} (h : d ∈ escapeChar c) : 0x20 ≤ d.toNat := by
  have halphabet : ∀ d ∈ escapeAlphabet, 0x20 ≤ d.toNat :=
    List.all_iff_forall_prop.mp (by decide)
  have hletters : ∀ p ∈ shortEscapes, p.1 ∈ escapeAlphabet := by decide
  rcases escapeChar_cases c with ⟨letter, hmem, hc⟩ | ⟨hcontrol, hc⟩ | ⟨-, -, hplain, hc⟩
  · rw [hc, List.mem_cons, List.mem_singleton] at h
    rcases h with rfl | rfl
    · decide
    · exact halphabet _ (hletters _ hmem)
  · have hhigh := hexDigit_mem_escapeAlphabet (n := c.toNat / 16) (by omega)
    have hlow := hexDigit_mem_escapeAlphabet (n := c.toNat % 16) (by omega)
    refine halphabet d ?_
    simp only [hc, List.mem_cons, List.not_mem_nil, or_false] at h
    rcases h with rfl | rfl | rfl | rfl | rfl | rfl
    · decide
    · decide
    · decide
    · decide
    · exact hhigh
    · exact hlow
  · rw [hc, List.mem_singleton] at h
    exact h ▸ hplain

theorem le_of_mem_quote {s : String} {c : Char} (h : c ∈ (quote s).toList) : 0x20 ≤ c.toNat := by
  rw [toList_quote, List.mem_append, List.mem_cons, List.mem_singleton] at h
  rcases h with (rfl | h) | rfl
  · decide
  · obtain ⟨d, -, hd⟩ := List.mem_flatMap.mp h
    exact le_of_mem_escapeChar hd
  · decide

theorem le_of_isNumeral {c : Char} (h : IsNumeral c) : 0x20 ≤ c.toNat := by
  rcases h with h | h
  · exact Nat.le_trans (by decide) (Char.isDigit_iff_toNat.mp h).1
  · have hall : ∀ d ∈ ['-', '+', '.', 'e', 'n', 'u', 'l'], 0x20 ≤ d.toNat := by simp
    exact hall c h

/-- No scalar is written with a control character. -/
theorem le_of_mem_scalarText {v : Value} {c : Char} (hleaf : v.isLeaf = true)
    (h : c ∈ (scalarText v).toList) : 0x20 ≤ c.toNat := by
  cases v with
  | null =>
      have hall : ∀ d ∈ "null".toList, 0x20 ≤ d.toNat := by simp
      exact hall c h
  | bool b =>
      have hall : ∀ d ∈ "true".toList ++ "false".toList, 0x20 ≤ d.toNat := by simp
      cases b with
      | true => exact hall c (List.mem_append_left _ h)
      | false => exact hall c (List.mem_append_right _ h)
  | int _ | nat _ | float _ => exact le_of_isNumeral (isNumeral_of_typeName rfl c h)
  | string s => exact le_of_mem_quote h
  | matcher m => exact le_of_mem_quote h
  | array _ | object _ => exact absurd hleaf (by simp)

/-! ## Lines of a text -/

/-- The characters of a text over several lines. -/
def IsLineText (cs : List Char) : Prop := ∀ c ∈ cs, 0x20 ≤ c.toNat ∨ c = '\n'

theorem isLineText_lineBreak (depth : Nat) : IsLineText (lineBreak depth) := by
  refine List.forall_mem_cons.mpr ⟨.inr rfl, fun c hc => ?_⟩
  rw [List.eq_of_mem_replicate hc]
  exact .inl (by decide)

theorem IsLineText.append {a b : List Char} (ha : IsLineText a) (hb : IsLineText b) :
    IsLineText (a ++ b) :=
  List.forall_mem_append.mpr ⟨ha, hb⟩

theorem isLineText_blockLines {depth : Nat} {sign : Char} {lines : List (List Char)}
    (hsign : 0x20 ≤ sign.toNat) (h : ∀ line ∈ lines, IsLineText line) :
    IsLineText (blockLines depth sign lines) := by
  induction lines generalizing sign with
  | nil => exact fun c hc => absurd hc List.not_mem_nil
  | cons line lines ih =>
      obtain ⟨hline, hlines⟩ := List.forall_mem_cons.mp h
      have hfront : IsLineText (sign :: lineBreak depth) :=
        List.forall_mem_cons.mpr ⟨.inl hsign, isLineText_lineBreak depth⟩
      exact hfront.append (hline.append (ih (by decide) hlines))

theorem isLineText_blockEnd {opening closing : Char} (hopening : 0x20 ≤ opening.toNat)
    (hclosing : 0x20 ≤ closing.toNat) (depth : Nat) (empty : Bool) :
    IsLineText (blockEnd opening closing depth empty) := by
  cases empty with
  | true => simp [blockEnd, IsLineText, hopening, hclosing]
  | false => exact (isLineText_lineBreak depth).append (by simp [IsLineText, hclosing])

theorem isLineText_prettyAt (v : Value) (depth : Nat) :
    IsLineText (v.prettyAt depth).toList := by
  induction v generalizing depth with
  | array items ih =>
      rw [toList_prettyAt_array, prettyItems_eq_map, List.map_map]
      refine (isLineText_blockLines (by decide) fun line hline => ?_).append
        (isLineText_blockEnd (by decide) (by decide) depth _)
      obtain ⟨v, hv, rfl⟩ := List.mem_map.mp hline
      exact ih v hv (depth + 1)
  | object members ih =>
      rw [toList_prettyAt_object, prettyMembers_eq_map, List.map_map]
      refine (isLineText_blockLines (by decide) fun line hline => ?_).append
        (isLineText_blockEnd (by decide) (by decide) depth _)
      obtain ⟨⟨k, v⟩, hv, rfl⟩ := List.mem_map.mp hline
      have hkey : IsLineText (quote k ++ ": ").toList := by
        rw [String.toList_append]
        exact IsLineText.append (fun c hc => .inl (le_of_mem_quote hc)) (by simp [IsLineText])
      show IsLineText (quote k ++ ": " ++ v.prettyAt (depth + 1)).toList
      rw [String.toList_append]
      exact hkey.append (ih k v hv (depth + 1))
  | _ =>
      rw [prettyAt_of_isLeaf rfl]
      exact fun c hc => .inl (le_of_mem_scalarText rfl hc)

theorem getLast?_append_blockEnd (front : List Char) (opening closing : Char) (depth : Nat)
    (empty : Bool) :
    (front ++ blockEnd opening closing depth empty).getLast? = some closing := by
  cases empty <;> simp [blockEnd]

/-- A value does not end with the end of a line. -/
theorem getLast?_prettyAt (v : Value) (depth : Nat) :
    (v.prettyAt depth).toList.getLast? ≠ some '\n' := by
  have hleaf : ∀ {v : Value}, v.isLeaf = true →
      (v.prettyAt depth).toList.getLast? ≠ some '\n' := by
    intro v hv h
    rw [prettyAt_of_isLeaf hv] at h
    exact absurd (le_of_mem_scalarText hv (List.mem_of_getLast? h)) (by decide)
  cases v with
  | array items =>
      rw [toList_prettyAt_array, getLast?_append_blockEnd]
      decide
  | object members =>
      rw [toList_prettyAt_object, getLast?_append_blockEnd]
      decide
  | _ => exact hleaf rfl

/-- **Trees are written alike if their lines are.** -/
theorem eq_of_lines_pretty_eq {v w : Value}
    (h : LineDiff.lines v.pretty = LineDiff.lines w.pretty) : v.pretty = w.pretty := by
  have hreturn : ∀ u : Value, '\r' ∉ u.pretty.toList := by
    intro u hmem
    rcases isLineText_prettyAt u 0 '\r' hmem with hprinted | hline
    · exact absurd hprinted (by decide)
    · exact absurd hline (by decide)
  exact LineDiff.eq_of_lines_eq (hreturn v) (getLast?_prettyAt v 0) (hreturn w)
    (getLast?_prettyAt w 0) h

/-! ## The inline diff -/

/-- A number that is finite is no NaN. -/
theorem Value.Explicit.nanFree {v : Value} (h : v.Explicit) : v.NaNFree := by
  intro w hw x hx
  have hfinite := h.floatsFinite w hw x hx
  simp only [Binary64.isFinite, bne_iff_ne] at hfinite
  simp [Binary64.isNaN, hfinite]

/-- **A reported difference changes a line.**  If anything is reported between two trees
without matchers whose numbers are finite, at any path and under any options, then the
inline diff of their texts deletes or inserts a line. -/
theorem exists_edit_of_compare_ne_nil {o : Options} {path : String} {expected actual : Value}
    (hcanonical : expected.Canonical) (hexpected : expected.Explicit) (hactual : actual.Explicit)
    (h : compare o expected path actual ≠ []) :
    ∃ line ∈ LineDiff.edit (LineDiff.lines expected.pretty) (LineDiff.lines actual.pretty),
      line.1 = .delete ∨ line.1 = .insert := by
  by_contra hnone
  have hkeep : ∀ line ∈ LineDiff.edit (LineDiff.lines expected.pretty)
      (LineDiff.lines actual.pretty), line.1 = .keep := by
    intro line hline
    cases hedit : line.1 with
    | keep => rfl
    | delete => exact absurd ⟨line, hline, .inl hedit⟩ hnone
    | insert => exact absurd ⟨line, hline, .inr hedit⟩ hnone
  have hpretty := eq_of_lines_pretty_eq (LineDiff.eq_of_edit_keeps hkeep)
  have hliteral : expected.Literal := ⟨hcanonical, hexpected.matcherFree, hexpected.nanFree⟩
  exact h (compare_of_same o hliteral (same_of_pretty_eq hexpected hactual hpretty) path)

/-- Two arrays that differ in a number with a fraction, and in the form of an integer. -/
theorem exists_edit_of_fractions :
    (Value.array [.float ⟨0x3FF8000000000000⟩, .int 1]).Explicit ∧
      (Value.array [.float ⟨0x4004000000000000⟩, .nat 1]).Explicit ∧
      ∃ line ∈ LineDiff.edit
          (LineDiff.lines (Value.array [.float ⟨0x3FF8000000000000⟩, .int 1]).pretty)
          (LineDiff.lines (Value.array [.float ⟨0x4004000000000000⟩, .nat 1]).pretty),
        line.1 = .delete ∨ line.1 = .insert := by
  have hexplicit : ∀ {x : Binary64} {v : Value}, x.isFinite = true → v = .int 1 ∨ v = .nat 1 →
      (Value.array [.float x, v]).Explicit := by
    rintro x v hx (rfl | rfl) <;> constructor <;>
      simp [Value.MatcherFree, Value.FloatsFinite, Value.Everywhere, Value.parts,
        Value.itemParts, Value.matcher?, hx]
  have hexpected := hexplicit (x := ⟨0x3FF8000000000000⟩) (by decide) (.inl rfl)
  have hactual := hexplicit (x := ⟨0x4004000000000000⟩) (by decide) (.inr rfl)
  have hlength : (compare ⟨false, [], []⟩ (.array [.float ⟨0x3FF8000000000000⟩, .int 1]) "$"
      (.array [.float ⟨0x4004000000000000⟩, .nat 1])).length = 1 := by
    decide +kernel
  have hdifferent := List.ne_nil_of_length_eq_add_one hlength
  exact ⟨hexpected, hactual, exists_edit_of_compare_ne_nil ⟨trivial, trivial, trivial⟩ hexpected
    hactual hdifferent⟩

end Expectation.Json
