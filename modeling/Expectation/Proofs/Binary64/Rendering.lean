import Expectation.Proofs.Binary64.Shortest
import Expectation.Proofs.Text.Digits

/-!
# Numbers are told apart by their texts

A decimal is written with a point at its place, or with one digit before the point and
an exponent.  Either way its value can be read off the text: the digits give a natural
number, and the place of the point and the exponent give the power of ten.

The shortest decimal of a number is near to no other number, so two numbers with one
text are the same.

## Main results

* `spelled?_render`: the text of a decimal spells its value.
* `render_injective`: numbers are told apart by their texts.
-/

namespace Expectation.Binary64

/-! ## Reading a text -/

/-- The value of digits with a scale of their own and a further exponent. -/
def scaled (ds : List Char) (places : Nat) (e : Int) : ℚ :=
  digitsValue ds * (10 : ℚ) ^ (e - places)

/-- The quotient that a decimal text without a sign spells. -/
def spelled? (text : List Char) : Option ℚ :=
  let whole := text.takeWhile Char.isDigit
  match text.dropWhile Char.isDigit with
  | '.' :: rest =>
    let part := rest.takeWhile Char.isDigit
    (exponent? (rest.dropWhile Char.isDigit)).map (scaled (whole ++ part) part.length)
  | rest => (exponent? rest).map (scaled whole 0)

variable {ds whole part rest : List Char}

/-- What follows the digits of a number: nothing, or an exponent. -/
def EndsDigits (rest : List Char) : Prop := ∀ c ∈ rest.head?, c = 'e'

theorem takeWhile_isDigit (hds : ∀ c ∈ ds, c.isDigit = true)
    (hrest : ∀ c ∈ rest.head?, c.isDigit = false) :
    (ds ++ rest).takeWhile Char.isDigit = ds ∧ (ds ++ rest).dropWhile Char.isDigit = rest := by
  rw [List.takeWhile_append_of_pos hds, List.dropWhile_append_of_pos hds]
  cases rest with
  | nil => simp
  | cons c rest => simp [hrest c rfl]

theorem EndsDigits.not_digit (h : EndsDigits rest) : ∀ c ∈ rest.head?, c.isDigit = false := by
  intro c hc
  rw [h c hc]
  decide

theorem spelled?_whole (hds : ∀ c ∈ ds, c.isDigit = true) (hrest : EndsDigits rest) :
    spelled? (ds ++ rest) = (exponent? rest).map (scaled ds 0) := by
  obtain ⟨htake, hdrop⟩ := takeWhile_isDigit hds hrest.not_digit
  unfold spelled?
  rw [htake, hdrop]
  split
  · exact absurd (hrest '.' rfl) (by decide)
  · rfl

theorem spelled?_point (hwhole : ∀ c ∈ whole, c.isDigit = true)
    (hpart : ∀ c ∈ part, c.isDigit = true) (hrest : EndsDigits rest) :
    spelled? (whole ++ '.' :: (part ++ rest)) =
      (exponent? rest).map (scaled (whole ++ part) part.length) := by
  have hstop : ∀ c ∈ ('.' :: (part ++ rest)).head?, c.isDigit = false := by
    rintro c ⟨⟩
    decide
  obtain ⟨htake, hdrop⟩ := takeWhile_isDigit hwhole hstop
  obtain ⟨htake', hdrop'⟩ := takeWhile_isDigit hpart hrest.not_digit
  unfold spelled?
  rw [htake, hdrop]
  simp only [htake', hdrop']

/-! ## The text of a decimal -/

theorem endsDigits_nil : EndsDigits [] := by simp [EndsDigits]

theorem isDigit_zeros (n : Nat) : ∀ c ∈ List.replicate n '0', c.isDigit = true := by
  intro c hc
  rw [List.eq_of_mem_replicate hc]
  decide

/-- The exponent of a number, as it is written behind the digits. -/
def exponentText (e : Int) : List Char :=
  'e' :: (if 0 < e + 1 then ['+'] else []) ++ (toString e).toList

theorem endsDigits_exponentText (e : Int) : EndsDigits (exponentText e) := by
  rintro c ⟨⟩
  rfl

/-- An exponent is read as it was written. -/
theorem exponent?_exponentText (e : Int) : exponent? (exponentText e) = some e := by
  have hdigits : ∀ n, ((Nat.toDigits 10 n).isEmpty || !(Nat.toDigits 10 n).all Char.isDigit) =
      false := by
    intro n
    have hall : (Nat.toDigits 10 n).all Char.isDigit = true :=
      List.all_eq_true.mpr fun c hc => Text.isDigit_of_mem_toDigits hc
    simp [hall, Nat.toDigits_ne_nil]
  unfold exponentText
  rw [Text.toList_toString_int]
  split
  · rw [if_pos (by omega)]
    simp [exponent?, splitSign, hdigits, Text.digitsValue_toDigits]
    omega
  · rw [if_neg (by omega)]
    simp [exponent?, splitSign, hdigits, Text.digitsValue_toDigits]
    omega

/-- Zeros behind digits multiply, zeros in front of them do nothing. -/
theorem digitsValue_append_zeros (n k : Nat) :
    digitsValue (Nat.toDigits 10 n ++ List.replicate k '0') = 10 ^ k * n := by
  show Nat.ofDigitChars 10 _ 0 = _
  rw [Nat.ofDigitChars_append, Nat.ofDigitChars_ten_toDigits, Nat.ofDigitChars_replicate_zero]

theorem digitsValue_zeros_append (k n : Nat) :
    digitsValue (List.replicate k '0' ++ Nat.toDigits 10 n) = n := by
  show Nat.ofDigitChars 10 _ 0 = _
  rw [Nat.ofDigitChars_append, Nat.ofDigitChars_replicate_zero, Nat.mul_zero,
    Nat.ofDigitChars_ten_toDigits]

section Shapes

variable {d : Decimal} {n : Nat}

/-- Digits of a decimal that stand at the right place have its value. -/
theorem scaled_eq_value {places : Nat} {e : Int} (hds : digitsValue ds = d.digits)
    (hscale : e - places = d.scale) : scaled ds places e = d.value := by
  rw [scaled, hds, hscale, Decimal.value]

/-- A number with zeros behind its digits. -/
theorem spelled?_zeros (keepPoint : Bool) (h : d.scale = n) :
    spelled? (Nat.toDigits 10 d.digits ++ List.replicate n '0' ++
      (if keepPoint then ['.', '0'] else [])) = some d.value := by
  have hall : ∀ c ∈ Nat.toDigits 10 d.digits ++ List.replicate n '0', c.isDigit = true :=
    List.forall_mem_append.mpr ⟨fun c => Text.isDigit_of_mem_toDigits, isDigit_zeros n⟩
  cases keepPoint with
  | true =>
      have hpoint := spelled?_point hall (isDigit_zeros 1) endsDigits_nil
      refine hpoint.trans (congrArg some ?_)
      rw [List.append_assoc, ← List.replicate_add, scaled, digitsValue_append_zeros,
        Decimal.value, h]
      push_cast
      rw [zpow_natCast, pow_succ, List.length_singleton, Nat.cast_one, zero_sub, zpow_neg_one]
      field_simp
  | false =>
      have hwhole := spelled?_whole hall endsDigits_nil
      refine hwhole.trans (congrArg some ?_)
      rw [scaled, digitsValue_append_zeros, Decimal.value, h]
      push_cast
      rw [zpow_natCast]
      norm_num
      ring

/-- A number with its point among its digits, and possibly an exponent. -/
theorem spelled?_split (hrest : EndsDigits rest) {e : Int} (he : exponent? rest = some e)
    (hn : n ≤ (Nat.toDigits 10 d.digits).length)
    (hscale : e + n - (Nat.toDigits 10 d.digits).length = d.scale) :
    spelled? ((Nat.toDigits 10 d.digits).take n ++
      '.' :: ((Nat.toDigits 10 d.digits).drop n ++ rest)) = some d.value := by
  have hwhole : ∀ c ∈ (Nat.toDigits 10 d.digits).take n, c.isDigit = true :=
    fun c hc => Text.isDigit_of_mem_toDigits (List.mem_of_mem_take hc)
  have hpart : ∀ c ∈ (Nat.toDigits 10 d.digits).drop n, c.isDigit = true :=
    fun c hc => Text.isDigit_of_mem_toDigits (List.mem_of_mem_drop hc)
  have hpoint := spelled?_point hwhole hpart hrest
  rw [hpoint, he, List.take_append_drop]
  refine congrArg some (scaled_eq_value (Text.digitsValue_toDigits _) ?_)
  rw [List.length_drop]
  omega

/-- A number with zeros between its point and its digits. -/
theorem spelled?_small (hscale : d.scale = -(n + (Nat.toDigits 10 d.digits).length)) :
    spelled? ('0' :: '.' :: List.replicate n '0' ++ Nat.toDigits 10 d.digits) =
      some d.value := by
  have hpoint := spelled?_point (isDigit_zeros 1)
    (List.forall_mem_append.mpr ⟨isDigit_zeros n,
      fun c => Text.isDigit_of_mem_toDigits (n := d.digits)⟩) endsDigits_nil
  rw [List.append_nil] at hpoint
  refine hpoint.trans (congrArg some (scaled_eq_value ?_ ?_))
  · rw [← List.append_assoc, ← List.replicate_add, digitsValue_zeros_append]
  · rw [List.length_append, List.length_replicate]
    push_cast
    omega

end Shapes

/-- **The text of a decimal spells its value.** -/
theorem spelled?_render (style : Style) (d : Decimal) :
    spelled? (d.render style).toList = some d.value := by
  have hlength : 0 < (Nat.toDigits 10 d.digits).length := Nat.length_toDigits_pos
  unfold Decimal.render
  simp only [String.toList_ofList]
  split
  · split
    · next hscale => exact spelled?_zeros style.keepPoint (Int.toNat_of_nonneg hscale).symm
    · split
      · next hscale hbefore =>
        have hpoint := spelled?_split (d := d)
          (n := ((Nat.toDigits 10 d.digits).length + d.scale).toNat) endsDigits_nil rfl
          (by omega) (by omega)
        rwa [List.append_nil] at hpoint
      · next hscale hbefore => exact spelled?_small (by omega)
  · have hexponent := exponent?_exponentText
      ((Nat.toDigits 10 d.digits).length + d.scale - 1)
    have hends := endsDigits_exponentText ((Nat.toDigits 10 d.digits).length + d.scale - 1)
    have htext : 'e' :: (if 0 < ((Nat.toDigits 10 d.digits).length : Int) + d.scale then ['+']
        else []) ++ (toString ((Nat.toDigits 10 d.digits).length + d.scale - 1)).toList =
          exponentText ((Nat.toDigits 10 d.digits).length + d.scale - 1) := by
      rw [exponentText, Int.sub_add_cancel]
    rw [List.append_assoc, htext]
    split
    · next hone =>
      rw [List.append_nil, List.take_of_length_le hone.le,
        spelled?_whole (fun c => Text.isDigit_of_mem_toDigits) hends, hexponent]
      refine congrArg some (scaled_eq_value (Text.digitsValue_toDigits _) ?_)
      omega
    · rw [List.append_assoc, List.cons_append]
      exact spelled?_split hends hexponent hlength (by omega)

/-! ## The text of a number -/

/-- The text of a finite number without its sign. -/
def unsigned (style : Style) (x : Binary64) : String :=
  if x.isZero then (if style.keepPoint then "0.0" else "0")
  else (x.shortest style.upOnTie).render style

theorem render_eq (style : Style) (x : Binary64) :
    x.render style = (if x.negative then "-" else "") ++ x.unsigned style :=
  rfl

/-- The text of a number spells zero, or its shortest decimal. -/
theorem spelled?_unsigned (style : Style) (x : Binary64) :
    spelled? (x.unsigned style).toList =
      some (if x.isZero then 0 else (x.shortest style.upOnTie).value) := by
  unfold unsigned
  split
  · cases style.keepPoint with
    | true =>
        have hpoint := spelled?_point (isDigit_zeros 1) (isDigit_zeros 1) endsDigits_nil
        exact hpoint.trans (congrArg some (by simp [scaled, digitsValue]))
    | false =>
        have hwhole := spelled?_whole (isDigit_zeros 1) endsDigits_nil
        exact hwhole.trans (congrArg some (by simp [scaled, digitsValue]))
  · exact spelled?_render style _

/-- What begins neither with a digit nor with a point or an exponent spells nothing. -/
theorem spelled?_cons_eq_none {c : Char} (hdigit : c.isDigit = false) (hpoint : c ≠ '.')
    (hexponent : c ≠ 'e' ∧ c ≠ 'E') (cs : List Char) : spelled? (c :: cs) = none := by
  have hnone : exponent? (c :: cs) = none := by
    simp [exponent?, hexponent]
  unfold spelled?
  rw [List.dropWhile_cons_of_neg (by simp [hdigit])]
  split
  · next heq => exact absurd (List.cons.inj heq).1 hpoint
  · rw [hnone]
    rfl

theorem unsigned_ne_cons {c : Char} (hdigit : c.isDigit = false) (hpoint : c ≠ '.')
    (hexponent : c ≠ 'e' ∧ c ≠ 'E') (style : Style) (x : Binary64) (cs : List Char) :
    (x.unsigned style).toList ≠ c :: cs := by
  intro h
  have hspelled := spelled?_unsigned style x
  rw [h, spelled?_cons_eq_none hdigit hpoint hexponent] at hspelled
  contradiction

/-- **Texts that keep the point** have a point or an exponent. -/
theorem mark_mem_unsigned (style : Style) (hkeep : style.keepPoint = true) (x : Binary64) :
    '.' ∈ (x.unsigned style).toList ∨ 'e' ∈ (x.unsigned style).toList := by
  unfold unsigned Decimal.render
  simp only [hkeep, if_true, apply_ite String.toList, String.toList_ofList]
  split_ifs <;> simp

theorem eq_of_unsigned_eq {style : Style} {x y : Binary64} (hsign : x.negative = y.negative)
    (h : x.unsigned style = y.unsigned style) : x = y := by
  have hpositive : ∀ {z : Binary64}, ¬ z.isZero = true → 0 < z.magnitude := by
    intro z hz
    rw [isZero_iff] at hz
    exact Nat.pos_of_ne_zero hz
  have hspelled := spelled?_unsigned style x
  rw [h, spelled?_unsigned style y, Option.some.injEq] at hspelled
  refine eq_of_magnitude_eq hsign ?_
  by_cases hx : x.isZero = true
  · by_cases hy : y.isZero = true
    · rw [(isZero_iff x).mp hx, (isZero_iff y).mp hy]
    · rw [if_neg hy, if_pos hx] at hspelled
      exact absurd hspelled (value_shortest_pos (hpositive hy) _).ne'
  · by_cases hy : y.isZero = true
    · rw [if_pos hy, if_neg hx] at hspelled
      exact absurd hspelled.symm (value_shortest_pos (hpositive hx) _).ne'
    · rw [if_neg hy, if_neg hx] at hspelled
      exact eq_of_value_shortest_eq (hpositive hx) (hpositive hy) hspelled.symm

/-- **Numbers are told apart by their texts.** -/
theorem render_injective (style : Style) : Function.Injective (render style) := by
  intro x y h
  have htext := congrArg String.toList h
  rw [render_eq, render_eq, String.toList_append, String.toList_append] at htext
  cases hx : x.negative <;> cases hy : y.negative
  · rw [hx, hy] at htext
    exact eq_of_unsigned_eq (hx.trans hy.symm) (String.toList_inj.mp htext)
  · rw [hx, hy] at htext
    exact absurd htext (unsigned_ne_cons rfl (by decide) (by decide) style x _)
  · rw [hx, hy] at htext
    exact absurd htext.symm (unsigned_ne_cons rfl (by decide) (by decide) style y _)
  · rw [hx, hy] at htext
    exact eq_of_unsigned_eq (hx.trans hy.symm) (String.toList_inj.mp (List.cons.inj htext).2)

end Expectation.Binary64
