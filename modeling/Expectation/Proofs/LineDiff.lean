import Expectation.LineDiff
import Mathlib.Data.List.Basic

/-!
# What an edit of lines tells

Whatever the table of common subsequences holds, the edit that is read off it is an
edit of the two lists: without its insertions it lists the expected lines, without
its deletions the actual ones.  So an edit that keeps every line is one between equal
lists.

The lines of a text tell the text, if nothing is dropped from the end of a line and
the text does not end with the end of a line.

## Main results

* `edit_expected`, `edit_actual`: the two lists can be read off an edit.
* `eq_of_edit_keeps`: nothing is deleted or inserted only between equal lists.
* `eq_of_lines_eq`: texts are told apart by their lines.
-/

namespace Expectation.LineDiff

/-! ## The two sides of an edit -/

section Sides

variable {α : Type}

/-- The lines on the expected side of an edit. -/
def expectedSide (lines : List (LineEdit × α)) : List α :=
  (lines.filter fun line => line.1 != .insert).map Prod.snd

/-- The lines on the actual side of an edit. -/
def actualSide (lines : List (LineEdit × α)) : List α :=
  (lines.filter fun line => line.1 != .delete).map Prod.snd

theorem expectedSide_reverse (lines : List (LineEdit × α)) :
    expectedSide lines.reverse = (expectedSide lines).reverse := by
  rw [expectedSide, List.filter_reverse, List.map_reverse, expectedSide]

theorem actualSide_reverse (lines : List (LineEdit × α)) :
    actualSide lines.reverse = (actualSide lines).reverse := by
  rw [actualSide, List.filter_reverse, List.map_reverse, actualSide]

/-- Where every line is kept the sides do not differ. -/
theorem expectedSide_eq_actualSide {lines : List (LineEdit × α)}
    (h : ∀ line ∈ lines, line.1 = .keep) : expectedSide lines = actualSide lines := by
  have hexpected : ∀ line ∈ lines, (line.1 != .insert) = true := by
    intro line hline
    rw [h line hline]
    rfl
  have hactual : ∀ line ∈ lines, (line.1 != .delete) = true := by
    intro line hline
    rw [h line hline]
    rfl
  rw [expectedSide, actualSide, List.filter_eq_self.mpr hexpected,
    List.filter_eq_self.mpr hactual]

variable [DecidableEq α]

/-- **A walk through the table passes both lists**, whatever the table says. -/
theorem sides_walk {fuel : Nat} {xs ys : List α} {j : Nat} {rows : List (Array Nat)}
    (hfuel : xs.length + ys.length ≤ fuel) :
    expectedSide (walk fuel xs ys j rows) = xs ∧ actualSide (walk fuel xs ys j rows) = ys := by
  fun_induction walk fuel xs ys j rows with
  | case1 xs ys =>
      obtain ⟨hxs, hys⟩ := Nat.add_eq_zero_iff.mp (Nat.le_zero.mp hfuel)
      obtain rfl := List.eq_nil_of_length_eq_zero hxs
      obtain rfl := List.eq_nil_of_length_eq_zero hys
      exact ⟨rfl, rfl⟩
  | case2 => exact ⟨rfl, rfl⟩
  | case3 fuel y ys j rows ih =>
      obtain ⟨hexpected, hactual⟩ := ih (by simpa using hfuel)
      exact ⟨hexpected, congrArg (y :: ·) hactual⟩
  | case4 fuel x xs j rows ih =>
      obtain ⟨hexpected, hactual⟩ := ih (by simpa using hfuel)
      exact ⟨congrArg (x :: ·) hexpected, hactual⟩
  | case5 fuel xs x ys j rows ih =>
      simp only [List.length_cons] at hfuel
      obtain ⟨hexpected, hactual⟩ := ih (by omega)
      exact ⟨congrArg (x :: ·) hexpected, congrArg (x :: ·) hactual⟩
  | case6 fuel x xs y ys j rows _ _ ih =>
      simp only [List.length_cons] at hfuel ih
      obtain ⟨hexpected, hactual⟩ := ih (by omega)
      exact ⟨hexpected, congrArg (y :: ·) hactual⟩
  | case7 fuel x xs y ys j rows _ _ ih =>
      simp only [List.length_cons] at hfuel ih
      obtain ⟨hexpected, hactual⟩ := ih (by omega)
      exact ⟨congrArg (x :: ·) hexpected, hactual⟩

/-- **The expected lines can be read off an edit.** -/
theorem edit_expected (expected actual : List α) :
    expectedSide (edit expected actual) = expected := by
  rw [edit, expectedSide_reverse, (sides_walk (Nat.le_refl _)).1, List.reverse_reverse]

/-- **The actual lines can be read off an edit.** -/
theorem edit_actual (expected actual : List α) :
    actualSide (edit expected actual) = actual := by
  rw [edit, actualSide_reverse, (sides_walk (Nat.le_refl _)).2, List.reverse_reverse]

/-- **Nothing is deleted or inserted only between equal lists.** -/
theorem eq_of_edit_keeps {expected actual : List α}
    (h : ∀ line ∈ edit expected actual, line.1 = .keep) : expected = actual := by
  rw [← edit_expected expected actual, expectedSide_eq_actualSide h, edit_actual]

end Sides

/-! ## The lines of a text -/

variable {cs : List Char}

theorem lines_ne_nil (h : cs ≠ []) : lines.go cs ≠ [] := by
  unfold lines.go
  split
  · exact absurd rfl h
  · exact List.cons_ne_nil _ _
  · exact List.cons_ne_nil _ _
  · split
    · exact List.cons_ne_nil _ _
    · split <;> exact List.cons_ne_nil _ _

/-- With the ends of the lines put back, the lines are the text. -/
theorem intercalate_lines (hreturn : '\r' ∉ cs) (hend : cs.getLast? ≠ some '\n') :
    List.intercalate ['\n'] (lines.go cs) = cs := by
  fun_induction lines.go cs with
  | case1 => rfl
  | case2 cs ih => exact absurd List.mem_cons_self hreturn
  | case3 cs ih =>
      have hne : cs ≠ [] := by
        rintro rfl
        exact hend rfl
      have hrest := ih (fun hmem => hreturn (List.mem_cons_of_mem _ hmem))
        (by rwa [List.getLast?_cons_of_ne_nil hne] at hend)
      obtain ⟨l, ls, hls⟩ := List.exists_cons_of_ne_nil (lines_ne_nil hne)
      rw [hls] at hrest ⊢
      rw [List.intercalate_cons_cons, hrest]
      rfl
  | case4 c => exact List.intercalate_singleton
  | case5 c _ d cs _ hnil => exact absurd hnil (lines_ne_nil (List.cons_ne_nil d cs))
  | case6 c _ d cs l ls _ hls ih =>
      have hrest := ih (fun hmem => hreturn (List.mem_cons_of_mem _ hmem))
        (by rwa [List.getLast?_cons_of_ne_nil (List.cons_ne_nil d cs)] at hend)
      rw [hls] at hrest ⊢
      rw [← hrest]
      cases ls with
      | nil => simp
      | cons next ls => simp [List.intercalate_cons_cons]

/-- **Texts are told apart by their lines.** -/
theorem eq_of_lines_eq {s t : String} (hs : '\r' ∉ s.toList) (hs' : s.toList.getLast? ≠ some '\n')
    (ht : '\r' ∉ t.toList) (ht' : t.toList.getLast? ≠ some '\n') (h : lines s = lines t) :
    s = t := by
  have hlines : lines.go s.toList = lines.go t.toList :=
    List.map_injective_iff.mpr (fun _ _ => String.ofList_injective) h
  rw [← String.toList_inj, ← intercalate_lines hs hs', hlines, intercalate_lines ht ht']

end Expectation.LineDiff
