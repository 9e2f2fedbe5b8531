import Expectation.Matcher.Expression
import Expectation.Proofs.Json.Spelling

/-!
# Reading spelled values

The values of a list may be spelled in any way that JSON knows, and written with
any gap between them or none.  The reader of quoted values gives the values
themselves.

A reader takes a spelling off the front of a text, whatever stands behind it, so
that the spelling of a text is read character by character, and a list value by
value.

## Main results

* `quoted?_spelled`: a spelling is read as its character.
* `quoted?_spelledAll`: a spelled text is read up to its closing mark.
* `arguments_listed`: the arguments of a list of spelled values are the values.
-/

namespace Expectation.Matcher

open Json (IsHexDigit FourDigits Spelled SpelledAll)

/-! ## Characters -/

theorem hexValue?_of_isHexDigit {c : Char} {n : Nat} (h : IsHexDigit c n) :
    hexValue? c = some n := by
  have hall : ∀ i : Fin 16, hexValue? (Json.hexDigit i) = some i.val ∧
      hexValue? (Json.hexDigit i).toUpper = some i.val := by decide
  obtain ⟨hlt, rfl | rfl⟩ := h
  · exact (hall ⟨n, hlt⟩).1
  · exact (hall ⟨n, hlt⟩).2

theorem hex4?_digits {n : Nat} {ds : List Char} (h : FourDigits n ds) (rest : List Char) :
    hex4? (ds ++ rest) = some (n, rest) := by
  obtain ⟨ha, hb, hc, hd⟩ := h
  simp [hex4?, hexValue?_of_isHexDigit ha, hexValue?_of_isHexDigit hb,
    hexValue?_of_isHexDigit hc, hexValue?_of_isHexDigit hd]

/-- A number that is not one of the halves of a pair is that of a character. -/
theorem unicodeEscape?_number {c : Char} {ds : List Char} (h : FourDigits c.toNat ds)
    (rest : List Char) : unicodeEscape? (ds ++ rest) = some (c, rest) := by
  obtain ⟨hfront, hback⟩ := Json.not_half c
  simp [unicodeEscape?, hex4?_digits h, hfront, hback, Char.ofNat_toNat]

/-- Two halves are put together to the character they were made from. -/
theorem unicodeEscape?_pair {c : Char} {high low : List Char} (hplane : 0x10000 ≤ c.toNat)
    (hhigh : FourDigits (0xD800 + (c.toNat - 0x10000) / 1024) high)
    (hlow : FourDigits (0xDC00 + (c.toNat - 0x10000) % 1024) low) (rest : List Char) :
    unicodeEscape? (high ++ '\\' :: 'u' :: (low ++ rest)) = some (c, rest) := by
  obtain ⟨hfront, hback, hvalue⟩ := Json.halves hplane
  simp [unicodeEscape?, hex4?_digits hhigh, hex4?_digits hlow, hfront, hback, hvalue,
    Char.ofNat_toNat]

/-- **A spelling is read as its character.** -/
theorem quoted?_spelled {c : Char} {spelling : List Char} (h : Spelled c spelling) (fuel : Nat)
    (rest : List Char) :
    quoted? (fuel + 1) (spelling ++ rest) =
      (quoted? fuel rest).map fun (value, after) => (c :: value, after) := by
  cases h with
  | plain hquote hback hcontrol => simp [quoted?, hback]
  | short h =>
      simp only [Json.shortEscapes, List.mem_cons, Prod.mk.injEq, List.not_mem_nil,
        or_false] at h
      rcases h with ⟨rfl, rfl⟩ | ⟨rfl, rfl⟩ | ⟨rfl, rfl⟩ | ⟨rfl, rfl⟩ | ⟨rfl, rfl⟩ |
        ⟨rfl, rfl⟩ | ⟨rfl, rfl⟩ | ⟨rfl, rfl⟩ <;> rfl
  | number h => simp [quoted?, unicodeEscape?_number h]
  | pair hplane hhigh hlow => simp [quoted?, unicodeEscape?_pair hplane hhigh hlow]

/-- **A spelled text is read** up to the mark that closes it. -/
theorem quoted?_spelledAll {cs body : List Char} (h : SpelledAll cs body) {fuel : Nat}
    (rest : List Char) (hfuel : cs.length < fuel) :
    quoted? fuel (body ++ '"' :: rest) = some (cs, rest) := by
  induction h generalizing fuel with
  | nil =>
      obtain ⟨fuel, rfl⟩ := Nat.exists_eq_add_of_lt hfuel
      rfl
  | @cons c cs spelling body hc h ih =>
      obtain ⟨fuel, rfl⟩ : ∃ n, fuel = n + 1 := ⟨fuel - 1, by omega⟩
      have hrest : cs.length < fuel := by
        rw [List.length_cons] at hfuel
        omega
      rw [List.append_assoc, quoted?_spelled hc, ih hrest]
      rfl

/-! ## Lists of values -/

/-- The texts of a list of values: each value spelled between quotation marks,
behind a gap that may be empty. -/
inductive Listed : List String → List Char → Prop
  | nil : Listed [] []
  | cons {v : String} {vs : List String} {gap body rest : List Char}
      (hgap : ∀ c ∈ gap, isGap c = true) (hbody : SpelledAll v.toList body)
      (h : Listed vs rest) : Listed (v :: vs) (gap ++ '"' :: (body ++ '"' :: rest))

theorem skipGap_append {gap : List Char} (h : ∀ c ∈ gap, isGap c = true) (rest : List Char) :
    skipGap (gap ++ rest) = skipGap rest :=
  List.dropWhile_append_of_pos h

/-- A value between quotation marks is read, and the gap behind it skipped. -/
theorem quotedValues_cons {cs body rest : List Char} (h : SpelledAll cs body) (fuel : Nat) :
    quotedValues (fuel + 1) ('"' :: (body ++ '"' :: rest)) =
      cs :: quotedValues fuel (skipGap rest) := by
  have hlength := h.length_le
  have hfuel : cs.length < (body ++ '"' :: rest).length + 1 := by
    rw [List.length_append]
    omega
  simp only [quotedValues, quoted?_spelledAll h rest hfuel]

/-- **Spelled values are read.** -/
theorem quotedValues_listed {values : List String} {text : List Char} (h : Listed values text)
    {fuel : Nat} (hfuel : (skipGap text).length < fuel) :
    quotedValues fuel (skipGap text) = values.map String.toList := by
  induction h generalizing fuel with
  | nil =>
      obtain ⟨fuel, rfl⟩ := Nat.exists_eq_add_of_lt hfuel
      rfl
  | @cons v vs gap body rest hgap hbody h ih =>
      have hmark : skipGap (gap ++ '"' :: (body ++ '"' :: rest)) =
          '"' :: (body ++ '"' :: rest) := skipGap_append hgap _
      have hshorter : (skipGap rest).length ≤ rest.length :=
        (List.dropWhile_sublist isGap).length_le
      obtain ⟨fuel, rfl⟩ : ∃ n, fuel = n + 1 := ⟨fuel - 1, by omega⟩
      have hrest : (skipGap rest).length < fuel := by
        simp only [hmark, List.length_append, List.length_cons] at hfuel
        omega
      rw [hmark, quotedValues_cons hbody, ih hrest]
      rfl

/-! ## Arguments -/

/-- A text whose ends are no gaps is its own trimmed form. -/
theorem trimGaps_eq_self {cs : List Char} (hhead : ∀ c ∈ cs.head?, isGap c = false)
    (hlast : ∀ c ∈ cs.getLast?, isGap c = false) : trimGaps cs = cs :=
  Text.dropWhile_ends_eq_self hhead hlast

theorem trimGaps_append {gap : List Char} (h : ∀ c ∈ gap, isGap c = true) (cs : List Char) :
    trimGaps (gap ++ cs) = trimGaps cs := by
  rw [trimGaps, skipGap_append h, trimGaps]

/-- A list of values begins and ends with quotation marks, behind its first gap. -/
theorem Listed.exists_marks {values : List String} {text : List Char} (h : Listed values text)
    (hne : values ≠ []) :
    ∃ gap inner, (∀ c ∈ gap, isGap c = true) ∧ text = gap ++ ('"' :: inner ++ ['"']) := by
  induction h with
  | nil => exact absurd rfl hne
  | @cons v vs gap body rest hgap hbody h ih =>
      cases h with
      | nil => exact ⟨gap, body, hgap, rfl⟩
      | @cons w ws gap' body' rest' hgap' hbody' h' =>
          obtain ⟨front, inner, -, htext⟩ := ih (List.cons_ne_nil w ws)
          refine ⟨gap, body ++ '"' :: (front ++ '"' :: inner), hgap, ?_⟩
          rw [htext]
          simp

/-- **The arguments of a list of spelled values are the values.** -/
theorem arguments_listed {values : List String} {text : List Char} (h : Listed values text)
    (hne : values ≠ []) : arguments (trimGaps text) = values.map String.toList := by
  obtain ⟨gap, inner, hgap, htext⟩ := h.exists_marks hne
  have hself : trimGaps ('"' :: inner ++ ['"']) = '"' :: inner ++ ['"'] := by
    apply trimGaps_eq_self
    · rintro c ⟨⟩
      rfl
    · rw [List.getLast?_concat]
      rintro c ⟨⟩
      rfl
  have htrim : trimGaps text = '"' :: inner ++ ['"'] := by
    rw [htext, trimGaps_append hgap, hself]
  have hskip : skipGap text = '"' :: inner ++ ['"'] := by
    rw [htext, skipGap_append hgap]
    rfl
  have hplain : ['\\', '"'].isPrefixOf ('"' :: inner ++ ['"']) = false := rfl
  rw [htrim]
  simp only [arguments, hself, hplain, Bool.false_eq_true, if_false]
  rw [← hskip]
  exact quotedValues_listed h (Nat.lt_succ_self _)

end Expectation.Matcher
