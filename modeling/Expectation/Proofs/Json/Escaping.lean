import Expectation.Json.Quoted
import Expectation.Proofs.Text.Pieces

/-!
# Escapes in quoted strings

A character inside a quoted string is written in one of three ways: with a
short escape, with an escape by number, or as it is.  Everything that reads
quoted strings or looks for something in them goes by these three cases.

A needle without any of the characters that escapes are made of occurs in the
written form of a string only if it occurs in the string.

## Main results

* `escapeChar_cases`: the three ways to write a character.
* `escapeChars_eq_self_iff`: the texts that are written as they are.
* `lacks_escapeChars`: escaping makes no needle.
-/

namespace Expectation.Json

open Text (Lacks)

/-- The letters of the short escapes, each with the character it stands for. -/
def shortEscapes : List (Char × Char) :=
  [('"', '"'), ('\\', '\\'), ('n', '\n'), ('r', '\r'), ('t', '\t'), ('b', '\x08'),
    ('f', '\x0C')]

/-- **The three ways to write a character.** -/
theorem escapeChar_cases (c : Char) :
    (∃ letter, (letter, c) ∈ shortEscapes ∧ escapeChar c = ['\\', letter]) ∨
      (c.toNat < 0x20 ∧ escapeChar c =
        ['\\', 'u', '0', '0', hexDigit (c.toNat / 16), hexDigit (c.toNat % 16)]) ∨
      (c ≠ '"' ∧ c ≠ '\\' ∧ 0x20 ≤ c.toNat ∧ escapeChar c = [c]) := by
  unfold escapeChar
  repeat' split
  all_goals first
    | subst c
      exact .inl ⟨_, by decide, rfl⟩
    | skip
  next hcontrol =>
    exact .inr (.inl ⟨hcontrol, rfl⟩)
  next hquote hbackslash _ _ _ _ _ hcontrol =>
    exact .inr (.inr ⟨hquote, hbackslash, Nat.le_of_not_lt hcontrol, rfl⟩)

/-! ## What escapes are made of -/

/-- The characters that escapes are made of. -/
def escapeAlphabet : List Char := "\\\"nrtbfu0123456789abcdef".toList

theorem hexDigit_mem_escapeAlphabet {n : Nat} (h : n < 16) : hexDigit n ∈ escapeAlphabet := by
  have hall : ∀ i : Fin 16, hexDigit i ∈ escapeAlphabet := by decide
  exact hall ⟨n, h⟩

/-- A character is written as it is, or with the characters of escapes. -/
theorem escapeChar_eq_or (c : Char) :
    escapeChar c = [c] ∨
      ∃ ds, escapeChar c = '\\' :: ds ∧ ∀ d ∈ ds, d ∈ escapeAlphabet := by
  rcases escapeChar_cases c with ⟨letter, hmem, hc⟩ | ⟨hcontrol, hc⟩ | ⟨-, -, -, hc⟩
  · have hall : ∀ p ∈ shortEscapes, p.1 ∈ escapeAlphabet := by decide
    refine .inr ⟨_, hc, fun d hd => ?_⟩
    rw [List.mem_singleton.mp hd]
    exact hall _ hmem
  · have hhigh := hexDigit_mem_escapeAlphabet (n := c.toNat / 16) (by omega)
    have hlow := hexDigit_mem_escapeAlphabet (n := c.toNat % 16) (by omega)
    refine .inr ⟨_, hc, fun d hd => ?_⟩
    simp only [List.mem_cons, List.not_mem_nil, or_false] at hd
    rcases hd with rfl | rfl | rfl | rfl | rfl
    · decide
    · decide
    · decide
    · exact hhigh
    · exact hlow
  · exact .inl hc

theorem escapeChars_cons (c : Char) (cs : List Char) :
    escapeChars (c :: cs) = escapeChar c ++ escapeChars cs :=
  rfl

/-- **The characters that need no escape** are written as they are, and no others. -/
theorem escapeChar_eq_self_iff {c : Char} :
    escapeChar c = [c] ↔ c ≠ '"' ∧ c ≠ '\\' ∧ 0x20 ≤ c.toNat := by
  have hshort : ∀ p ∈ shortEscapes, p.2 = '"' ∨ p.2 = '\\' ∨ p.2.toNat < 0x20 := by decide
  rcases escapeChar_cases c with ⟨letter, hmem, hc⟩ | ⟨hcontrol, hc⟩ | ⟨hquote, hback, hplain, hc⟩
  · have hneeds := hshort _ hmem
    constructor
    · intro h
      exact absurd (hc.symm.trans h) (by simp)
    · rintro ⟨hquote, hback, hplain⟩
      rcases hneeds with heq | heq | hlt
      · exact absurd heq hquote
      · exact absurd heq hback
      · exact absurd hplain (Nat.not_le_of_lt hlt)
  · constructor
    · intro h
      exact absurd (hc.symm.trans h) (by simp)
    · rintro ⟨-, -, hplain⟩
      omega
  · exact ⟨fun _ => ⟨hquote, hback, hplain⟩, fun _ => hc⟩

/-- Texts of such characters are written as they are. -/
theorem escapeChars_eq_self {cs : List Char}
    (h : ∀ c ∈ cs, c ≠ '"' ∧ c ≠ '\\' ∧ 0x20 ≤ c.toNat) : escapeChars cs = cs := by
  induction cs with
  | nil => rfl
  | cons c cs ih =>
      have hc := escapeChar_eq_self_iff.mpr (h c List.mem_cons_self)
      have htail := ih fun d hd => h d (List.mem_cons_of_mem c hd)
      rw [escapeChars_cons, htail, hc]
      rfl

theorem escapeChars_append (a b : List Char) :
    escapeChars (a ++ b) = escapeChars a ++ escapeChars b :=
  List.flatMap_append

theorem length_le_length_escapeChars (cs : List Char) :
    cs.length ≤ (escapeChars cs).length := by
  induction cs with
  | nil => exact Nat.le_refl 0
  | cons c cs ih =>
      have hone : 1 ≤ (escapeChar c).length := by
        rcases escapeChar_eq_or c with hc | ⟨ds, hc, -⟩ <;> simp [hc]
      rw [escapeChars_cons, List.length_append, List.length_cons]
      omega

/-- **Nothing is escaped exactly if nothing needs an escape.** -/
theorem escapeChars_eq_self_iff {cs : List Char} :
    escapeChars cs = cs ↔ ∀ c ∈ cs, c ≠ '"' ∧ c ≠ '\\' ∧ 0x20 ≤ c.toNat := by
  refine ⟨fun h => ?_, escapeChars_eq_self⟩
  induction cs with
  | nil => simp
  | cons c cs ih =>
      have hlength := length_le_length_escapeChars cs
      rw [escapeChars_cons] at h
      rcases escapeChar_eq_or c with hc | ⟨ds, hc, -⟩
      · rw [hc, List.singleton_append] at h
        rw [List.forall_mem_cons]
        exact ⟨escapeChar_eq_self_iff.mp hc, ih (List.cons.inj h).2⟩
      · -- An escape has two characters at least, and what follows is no shorter than it was.
        have htwo : 2 ≤ (escapeChar c).length := by
          rcases escapeChar_cases c with ⟨letter, -, heq⟩ | ⟨-, heq⟩ | ⟨-, hback, -, heq⟩
          · simp [heq]
          · simp [heq]
          · rw [heq] at hc
            exact absurd (List.cons.inj hc).1 hback
        have hsame := congrArg List.length h
        rw [List.length_append, List.length_cons] at hsame
        omega

/-- A string in quotation marks, as characters. -/
theorem toList_quote (s : String) :
    (quote s).toList = '"' :: escapeChars s.toList ++ ['"'] := by
  rw [quote, String.toList_ofList]

/-! ## Quotation marks and backslashes -/

theorem hexDigit_ne {n : Nat} (h : n < 16) : hexDigit n ≠ '"' ∧ hexDigit n ≠ '\\' := by
  have hall : ∀ i : Fin 16, hexDigit i ≠ '"' ∧ hexDigit i ≠ '\\' := by decide
  exact hall ⟨n, h⟩

/-- Escapes bring no quotation mark into a text without one. -/
theorem quote_not_mem_escapeChars {cs : List Char} (h : '"' ∉ cs) : '"' ∉ escapeChars cs := by
  intro hmem
  obtain ⟨c, hc, hmem⟩ := List.mem_flatMap.mp hmem
  have hne : c ≠ '"' := fun heq => h (heq ▸ hc)
  rcases escapeChar_cases c with ⟨letter, hletter, heq⟩ | ⟨hcontrol, heq⟩ | ⟨-, -, -, heq⟩
  · have hall : ∀ p ∈ shortEscapes, p.2 = '"' ∨ '"' ∉ ['\\', p.1] := by decide
    rw [heq] at hmem
    rcases hall _ hletter with hquote | hfree
    · exact hne hquote
    · exact hfree hmem
  · have hhigh := hexDigit_ne (n := c.toNat / 16) (by omega)
    have hlow := hexDigit_ne (n := c.toNat % 16) (by omega)
    rw [heq] at hmem
    simp [hhigh.1.symm, hlow.1.symm] at hmem
  · rw [heq] at hmem
    exact hne (List.mem_singleton.mp hmem).symm

/-- A text that does not end in a backslash is written without one at the end. -/
theorem getLast?_escapeChars_ne {cs : List Char} (h : cs.getLast? ≠ some '\\') :
    (escapeChars cs).getLast? ≠ some '\\' := by
  rcases List.eq_nil_or_concat' cs with rfl | ⟨front, c, rfl⟩
  · simp [escapeChars]
  · rw [List.getLast?_concat] at h
    have hne : c ≠ '\\' := fun heq => h (congrArg some heq)
    have hlast : (escapeChar c).getLast? ≠ some '\\' := by
      rcases escapeChar_cases c with ⟨letter, hletter, heq⟩ | ⟨hcontrol, heq⟩ | ⟨-, -, -, heq⟩
      · have hall : ∀ p ∈ shortEscapes, p.2 = '\\' ∨ p.1 ≠ '\\' := by decide
        rw [heq]
        rcases hall _ hletter with hback | hback
        · exact absurd hback hne
        · simpa using hback
      · have hlow := hexDigit_ne (n := c.toNat % 16) (by omega)
        rw [heq]
        simpa using hlow.2
      · rw [heq]
        simpa using hne
    have hsome : (escapeChar c).getLast?.isSome = true := by
      rcases escapeChar_eq_or c with heq | ⟨ds, heq, -⟩ <;> simp [heq]
    obtain ⟨d, hd⟩ := Option.isSome_iff_exists.mp hsome
    have hone : escapeChars [c] = escapeChar c := List.append_nil _
    rw [escapeChars_append, hone, List.getLast?_append, hd]
    rwa [hd] at hlast

/-- Backslashes are doubled. -/
theorem escapeChars_replicate (n : Nat) :
    escapeChars (List.replicate n '\\') = List.replicate (2 * n) '\\' := by
  induction n with
  | zero => rfl
  | succ n ih =>
      rw [List.replicate_succ, escapeChars_cons, ih]
      rfl

/-! ## Needles in written strings -/

theorem prefix_of_prefix_escapeChars {needle cs : List Char}
    (hneedle : ∀ d ∈ needle, d ∉ escapeAlphabet) (h : needle <+: escapeChars cs) :
    needle <+: cs := by
  induction cs generalizing needle with
  | nil => exact h
  | cons c cs ih =>
      cases needle with
      | nil => exact List.nil_prefix
      | cons a needle =>
          rw [escapeChars_cons] at h
          rcases escapeChar_eq_or c with hc | ⟨ds, hc, -⟩
          · rw [hc, List.singleton_append, List.cons_prefix_cons] at h
            obtain ⟨rfl, h⟩ := h
            rw [List.cons_prefix_cons]
            exact ⟨rfl, ih (fun d hd => hneedle d (List.mem_cons_of_mem _ hd)) h⟩
          · rw [hc, List.cons_append, List.cons_prefix_cons] at h
            obtain ⟨rfl, -⟩ := h
            exact absurd (by decide) (hneedle '\\' List.mem_cons_self)

/-- **Escaping makes no needle.**  A text that lacks a needle lacks it in its
written form too, if the needle has nothing in common with escapes. -/
theorem lacks_escapeChars {needle cs : List Char} (hne : needle ≠ [])
    (hneedle : ∀ d ∈ needle, d ∉ escapeAlphabet) (h : Lacks needle cs) :
    Lacks needle (escapeChars cs) := by
  induction cs with
  | nil => exact h
  | cons c cs ih =>
      have hcs : Lacks needle (escapeChars cs) :=
        ih (h.of_infix (List.suffix_cons c cs).isInfix)
      rcases escapeChar_eq_or c with hc | ⟨ds, hc, hds⟩
      · intro hn
        rw [escapeChars_cons, hc, List.singleton_append, List.infix_cons_iff] at hn
        rcases hn with hbegin | hwithin
        · have hescape : needle <+: escapeChars (c :: cs) := by
            rw [escapeChars_cons, hc]
            exact hbegin
          exact h (prefix_of_prefix_escapeChars hneedle hescape).isInfix
        · exact hcs hwithin
      · refine Text.lacks_append_of_front hne (fun d hd hmem => hneedle d hmem ?_) hcs
        rw [hc] at hd
        rcases List.mem_cons.mp hd with rfl | hd
        · decide
        · exact hds d hd

/-- Nor do quotation marks around it. -/
theorem lacks_quote_append {needle : List Char} {s : String} {rest : List Char}
    (hne : needle ≠ []) (hneedle : ∀ d ∈ needle, d ∉ escapeAlphabet)
    (h : Lacks needle s.toList) (hrest : Lacks needle rest) :
    Lacks needle ((quote s).toList ++ rest) := by
  have hmark : '"' ∉ needle := fun hmem => hneedle _ hmem (by decide)
  have hclose : Lacks needle ('"' :: rest) := Text.lacks_cons hne hmark hrest
  have hbody : Lacks needle (escapeChars s.toList ++ '"' :: rest) := by
    refine Text.lacks_append (lacks_escapeChars hne hneedle h) hclose ?_
    rintro c ⟨⟩
    exact hmark
  rw [toList_quote, List.append_assoc]
  exact Text.lacks_cons hne hmark hbody

end Expectation.Json
