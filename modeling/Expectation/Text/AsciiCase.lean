/-!
# Equality up to ASCII case

Names in a page are compared without regard to the case of the letters `A` to
`Z`; all other characters have to be the same.

## Main results

* `sameName_refl`, `sameName_symm`, `sameName_trans`: an equivalence of names.
-/

namespace Expectation.Text

/-- A name with its letters `A` to `Z` made small. -/
def lowerName (s : String) : List Char := s.toList.map Char.toLower

/-- Whether two names are equal up to ASCII case. -/
def sameName (a b : String) : Bool := lowerName a == lowerName b

@[simp] theorem sameName_refl (a : String) : sameName a a = true := by simp [sameName]

theorem sameName_symm {a b : String} (h : sameName a b = true) : sameName b a = true := by
  simp only [sameName, beq_iff_eq] at *
  exact h.symm

theorem sameName_trans {a b c : String} (hab : sameName a b = true)
    (hbc : sameName b c = true) : sameName a c = true := by
  simp only [sameName, beq_iff_eq] at *
  exact hab.trans hbc

end Expectation.Text
