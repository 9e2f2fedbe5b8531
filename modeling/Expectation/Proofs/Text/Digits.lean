import Expectation.Binary64.Reading

/-!
# Decimal digits

Numbers are written with the digits of the library, and read by two loops of
this one.  What both need to know about the digits: they are digits, there is
at least one, they spell the number, and only zero begins with a zero.

## Main results

* `digitsValue_toDigits`: the digits of a number spell it.
* `toString_int_injective`: integers are told apart by their texts.
* `exists_eq_zeros_append`: digits are those of a number with zeros in front.
* `head?_toDigits_ne_zero`: no number but zero begins with a zero.
-/

namespace Expectation.Text

theorem toList_toString_nat (n : Nat) : (toString n).toList = Nat.toDigits 10 n := by
  rw [Nat.toString_eq_repr, Nat.toList_repr]

/-- The text of an integer: its sign, if it has one, and its digits. -/
theorem toList_toString_int (i : Int) :
    (toString i).toList =
      if 0 ≤ i then Nat.toDigits 10 i.toNat else '-' :: Nat.toDigits 10 (-i).toNat := by
  rw [Int.toString_eq_repr, Int.repr_eq_if]
  split
  · exact Nat.toList_repr
  · rw [String.toList_append, Nat.toList_repr]
    rfl

theorem isDigit_of_mem_toDigits {n : Nat} {c : Char} (h : c ∈ Nat.toDigits 10 n) :
    c.isDigit = true :=
  Nat.isDigit_of_mem_toDigits (by decide) (by decide) h

theorem digitsValue_toDigits (n : Nat) : Binary64.digitsValue (Nat.toDigits 10 n) = n :=
  Nat.ofDigitChars_ten_toDigits

theorem toDigits_injective {m n : Nat} (h : Nat.toDigits 10 m = Nat.toDigits 10 n) : m = n := by
  rw [← digitsValue_toDigits m, h, digitsValue_toDigits]

/-- Integers are told apart by their texts. -/
theorem toString_int_injective {i j : Int} (h : toString i = toString j) : i = j := by
  have hsign : ∀ n ds, Nat.toDigits 10 n ≠ '-' :: ds := by
    intro n ds heq
    have hdigit := isDigit_of_mem_toDigits (heq ▸ List.mem_cons_self : '-' ∈ Nat.toDigits 10 n)
    exact absurd hdigit (by decide)
  have htext := congrArg String.toList h
  rw [toList_toString_int, toList_toString_int] at htext
  split at htext <;> split at htext
  · have heq := toDigits_injective htext
    omega
  · exact absurd htext (hsign _ _)
  · exact absurd htext.symm (hsign _ _)
  · have heq := toDigits_injective (List.cons.inj htext).2
    omega

/-- No number but zero begins with a zero. -/
theorem head?_toDigits_ne_zero {n : Nat} (h : n ≠ 0) : (Nat.toDigits 10 n).head? ≠ some '0' := by
  induction n using Nat.strongRecOn with
  | ind n ih =>
      rw [Nat.toDigits_eq_if (by decide)]
      split
      · next hlt =>
          intro hhead
          have hchar : n.digitChar = '0' := Option.some.inj hhead
          exact h (Nat.digitChar_eq_zero.mp hchar)
      · next hge =>
          have hfront := ih (n / 10) (Nat.div_lt_self (by omega) (by decide)) (by omega)
          obtain ⟨c, cs, hcs⟩ := List.ne_nil_iff_exists_cons.mp
            (Nat.toDigits_ne_nil (n := n / 10) (b := 10))
          rw [hcs] at hfront ⊢
          exact hfront

/-! ## Zeros in front -/

/-- Zeros in front of a number do not change it. -/
theorem digitsValue_zeros_append (k n : Nat) :
    Binary64.digitsValue (List.replicate k '0' ++ Nat.toDigits 10 n) = n := by
  have hzeros : Nat.ofDigitChars 10 (List.replicate k '0') 0 = 0 := by
    rw [Nat.ofDigitChars_replicate_zero, Nat.mul_zero]
  change Nat.ofDigitChars 10 _ 0 = n
  rw [Nat.ofDigitChars_append, hzeros]
  exact Nat.ofDigitChars_ten_toDigits

/-- A digit is the only one of its value. -/
theorem toDigits_sub_zero {d : Char} (h : d.isDigit = true) :
    Nat.toDigits 10 (d.toNat - 48) = [d] := by
  obtain ⟨hlow, hhigh⟩ := Char.isDigit_iff_toNat.mp h
  have hsmall : d.toNat < 58 := Nat.lt_succ_of_le hhigh
  have hall : ∀ n < 58, 48 ≤ n → Nat.toDigits 10 (n - 48) = [Char.ofNat n] := by decide
  rw [hall d.toNat hsmall hlow, Char.ofNat_toNat]

/-- Digits behind a number continue it. -/
theorem toDigits_append {n : Nat} (hn : 0 < n) {ds : List Char}
    (h : ∀ d ∈ ds, d.isDigit = true) :
    Nat.toDigits 10 n ++ ds = Nat.toDigits 10 (Nat.ofDigitChars 10 ds n) := by
  induction ds generalizing n with
  | nil => exact List.append_nil _
  | cons d ds ih =>
      have hd : d.isDigit = true := h d List.mem_cons_self
      have hlt : d.toNat - 48 < 10 := by
        have hhigh : d.toNat ≤ 57 := (Char.isDigit_iff_toNat.mp hd).2
        omega
      have hstep := Nat.toDigits_append_toDigits (by decide) hn hlt
      rw [toDigits_sub_zero hd] at hstep
      rw [List.append_cons, hstep]
      exact ih (by omega) fun e he => h e (List.mem_cons_of_mem d he)

/-- **Digits are those of a number with zeros in front.** -/
theorem exists_eq_zeros_append {ds : List Char} (hne : ds ≠ [])
    (h : ∀ d ∈ ds, d.isDigit = true) :
    ∃ k, ds = List.replicate k '0' ++ Nat.toDigits 10 (Binary64.digitsValue ds) := by
  induction ds with
  | nil => exact absurd rfl hne
  | cons d ds ih =>
      have hd : d.isDigit = true := h d List.mem_cons_self
      have hrest : ∀ e ∈ ds, e.isDigit = true := fun e he => h e (List.mem_cons_of_mem d he)
      by_cases hzero : d = '0'
      · subst hzero
        cases ds with
        | nil => exact ⟨0, rfl⟩
        | cons e ds =>
            obtain ⟨k, hk⟩ := ih (List.cons_ne_nil e ds) hrest
            exact ⟨k + 1, congrArg ('0' :: ·) hk⟩
      · have hpos : 0 < d.toNat - 48 := by
          have hlow : 48 ≤ d.toNat := (Char.isDigit_iff_toNat.mp hd).1
          have hother : d.toNat ≠ 48 := fun heq => hzero (Char.toNat_inj.mp heq)
          omega
        have hwhole := toDigits_append hpos hrest
        rw [toDigits_sub_zero hd] at hwhole
        refine ⟨0, hwhole.trans ?_⟩
        change _ = Nat.toDigits 10 (Nat.ofDigitChars 10 ds (10 * 0 + (d.toNat - 48)))
        rw [Nat.mul_zero, Nat.zero_add]

end Expectation.Text
