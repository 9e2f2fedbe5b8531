import Expectation.Proofs.Json.Escaping

/-!
# Spellings of strings

A writer of quoted strings has one form for each character, but a reader has to
know them all.  A character may stand for itself, unless it is a quotation mark,
a backslash or a control character; some have a short escape; and every one has
its number, in four hexadecimal digits of either case, or in two times four
digits when it lies beyond the first plane.

## Main results

* `spelled_escapeChar`: the form that is written is one of the spellings.
* `SpelledAll.length_le`: a text is no longer than any of its spellings.
-/

namespace Expectation.Json

/-- A hexadecimal digit of either case, with its value. -/
def IsHexDigit (c : Char) (n : Nat) : Prop :=
  n < 16 ∧ (c = hexDigit n ∨ c = (hexDigit n).toUpper)

/-- Four hexadecimal digits, with their value. -/
inductive FourDigits : Nat → List Char → Prop
  | mk {a b c d : Char} {i j k l : Nat} (ha : IsHexDigit a i) (hb : IsHexDigit b j)
      (hc : IsHexDigit c k) (hd : IsHexDigit d l) :
      FourDigits (((i * 16 + j) * 16 + k) * 16 + l) [a, b, c, d]

/-- The spellings of a character inside a quoted string. -/
inductive Spelled : Char → List Char → Prop
  | plain {c : Char} (hquote : c ≠ '"') (hback : c ≠ '\\') (hcontrol : 0x20 ≤ c.toNat) :
      Spelled c [c]
  | short {letter c : Char} (h : (letter, c) ∈ ('/', '/') :: shortEscapes) :
      Spelled c ['\\', letter]
  | number {c : Char} {ds : List Char} (h : FourDigits c.toNat ds) : Spelled c ('\\' :: 'u' :: ds)
  | pair {c : Char} {high low : List Char} (hplane : 0x10000 ≤ c.toNat)
      (hhigh : FourDigits (0xD800 + (c.toNat - 0x10000) / 1024) high)
      (hlow : FourDigits (0xDC00 + (c.toNat - 0x10000) % 1024) low) :
      Spelled c ('\\' :: 'u' :: high ++ '\\' :: 'u' :: low)

/-- The spellings of a text: a spelling of each of its characters in turn. -/
inductive SpelledAll : List Char → List Char → Prop
  | nil : SpelledAll [] []
  | cons {c : Char} {cs spelling body : List Char} (hc : Spelled c spelling)
      (h : SpelledAll cs body) : SpelledAll (c :: cs) (spelling ++ body)

theorem isHexDigit_hexDigit {n : Nat} (h : n < 16) : IsHexDigit (hexDigit n) n :=
  ⟨h, .inl rfl⟩

/-- The number of a character is no half of a pair. -/
theorem not_half (c : Char) :
    ¬ (0xD800 ≤ c.toNat ∧ c.toNat < 0xDC00) ∧ ¬ (0xDC00 ≤ c.toNat ∧ c.toNat < 0xE000) := by
  have hvalid : c.toNat < 0xD800 ∨ 0xDFFF < c.toNat ∧ c.toNat < 0x110000 := c.valid
  omega

/-- A character beyond the first plane has two halves, which give its number. -/
theorem halves {c : Char} (hplane : 0x10000 ≤ c.toNat) :
    0xD800 + (c.toNat - 0x10000) / 1024 < 0xDC00 ∧
      0xDC00 + (c.toNat - 0x10000) % 1024 < 0xE000 ∧
      0x10000 + (c.toNat - 0x10000) / 1024 * 1024 + (c.toNat - 0x10000) % 1024 = c.toNat := by
  have hvalid : c.toNat < 0xD800 ∨ 0xDFFF < c.toNat ∧ c.toNat < 0x110000 := c.valid
  omega

/-- **What is written is a spelling.** -/
theorem spelled_escapeChar (c : Char) : Spelled c (escapeChar c) := by
  rcases escapeChar_cases c with ⟨letter, hmem, hc⟩ | ⟨hcontrol, hc⟩ | ⟨hquote, hback, hplain, hc⟩
  · rw [hc]
    exact .short (List.mem_cons_of_mem _ hmem)
  · have hhigh := isHexDigit_hexDigit (n := c.toNat / 16) (by omega)
    have hlow := isHexDigit_hexDigit (n := c.toNat % 16) (by omega)
    have hzero : IsHexDigit '0' 0 := ⟨by decide, .inl (by decide)⟩
    have hvalue : ((0 * 16 + 0) * 16 + c.toNat / 16) * 16 + c.toNat % 16 = c.toNat := by omega
    have hdigits := FourDigits.mk hzero hzero hhigh hlow
    rw [hvalue] at hdigits
    rw [hc]
    exact .number hdigits
  · rw [hc]
    exact .plain hquote hback hplain

theorem spelledAll_escapeChars (cs : List Char) : SpelledAll cs (escapeChars cs) := by
  induction cs with
  | nil => exact .nil
  | cons c cs ih => exact .cons (spelled_escapeChar c) ih

/-- A spelling is never empty. -/
theorem Spelled.length_pos {c : Char} {spelling : List Char} (h : Spelled c spelling) :
    0 < spelling.length := by
  cases h <;> simp

theorem SpelledAll.length_le {cs body : List Char} (h : SpelledAll cs body) :
    cs.length ≤ body.length := by
  induction h with
  | nil => exact Nat.le_refl 0
  | cons hc h ih =>
      have hpos := hc.length_pos
      rw [List.length_append, List.length_cons]
      omega

end Expectation.Json
