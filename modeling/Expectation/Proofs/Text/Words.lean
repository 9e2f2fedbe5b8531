import Expectation.Text.Blank
import Mathlib.Data.List.TakeWhile

/-!
# Trimming and words

Texts are trimmed when they are written and compared by their words.  Blank ends
hold no words, so the one does not get in the way of the other.

## Main results

* `collapse_trimmed`: trimming leaves the words alone.
* `trim_append_left`, `trim_append_right`, `trim_trim`: blank ends are all that is trimmed.
* `allBlank_trimmed`: a trimmed text is blank if the text is.
-/

namespace Expectation.Text

theorem words_cons_of_blank {c : Char} (h : isBlank c = true) (cs : List Char) :
    words (c :: cs) = words cs := by
  rw [words.eq_def]
  exact if_pos h

/-- A word begins with a character that is not blank. -/
theorem words_cons_of_not_blank {c : Char} (h : isBlank c = false) (cs : List Char) :
    words (c :: cs) = match cs with
      | [] => [[c]]
      | d :: _ =>
        if isBlank d then [c] :: words cs
        else match words cs with
          | [] => [[c]]
          | w :: ws => (c :: w) :: ws := by
  rw [words.eq_def]
  exact if_neg (by simp [h])

/-- Blank characters hold no words. -/
theorem words_eq_nil_iff {cs : List Char} : words cs = [] ↔ ∀ c ∈ cs, isBlank c = true := by
  induction cs with
  | nil => exact ⟨fun _ c hc => absurd hc List.not_mem_nil, fun _ => rfl⟩
  | cons c cs ih =>
      by_cases hc : isBlank c = true
      · rw [words_cons_of_blank hc, ih]
        simp [hc]
      · have hne : words (c :: cs) ≠ [] := by
          rw [words_cons_of_not_blank (by simpa using hc)]
          split
          · simp
          · split
            · simp
            · split <;> simp
        simp [hne, hc]

/-- Blanks in front of a text hold no words. -/
theorem words_trimStart (cs : List Char) : words (trimStart cs) = words cs := by
  induction cs with
  | nil => rfl
  | cons c cs ih =>
      by_cases hc : isBlank c = true
      · rw [trimStart, List.dropWhile_cons_of_pos hc, words_cons_of_blank hc]
        exact ih
      · rw [trimStart, List.dropWhile_cons_of_neg hc]

/-- Nor do blanks behind it. -/
theorem words_append_of_blank (cs : List Char) {bs : List Char}
    (h : ∀ b ∈ bs, isBlank b = true) : words (cs ++ bs) = words cs := by
  induction cs with
  | nil => exact words_eq_nil_iff.mpr h
  | cons c cs ih =>
      cases hc : isBlank c with
      | true => rw [List.cons_append, words_cons_of_blank hc, words_cons_of_blank hc, ih]
      | false =>
          cases cs with
          | nil =>
              cases bs with
              | nil => rfl
              | cons b bs =>
                  have hbs : words (b :: bs) = [] := words_eq_nil_iff.mpr h
                  rw [List.singleton_append, words_cons_of_not_blank hc,
                    words_cons_of_not_blank hc]
                  simp only [h b List.mem_cons_self, if_true, hbs]
          | cons d ds =>
              rw [List.cons_append] at ih
              rw [List.cons_append, List.cons_append, words_cons_of_not_blank hc,
                words_cons_of_not_blank hc]
              simp only [ih]

/-- What trimming leaves out at the end is blank. -/
theorem exists_trimStart_eq (cs : List Char) :
    ∃ bs, (∀ b ∈ bs, isBlank b = true) ∧ trimStart cs = trim cs ++ bs := by
  refine ⟨((trimStart cs).reverse.takeWhile isBlank).reverse,
    fun b hb => List.all_eq_true.mp List.all_takeWhile b (List.mem_reverse.mp hb), ?_⟩
  rw [trim, trimEnd, ← List.reverse_append, List.takeWhile_append_dropWhile, List.reverse_reverse]

/-- A trimmed text begins with no blank. -/
theorem isBlank_of_head?_trim {c : Char} {cs : List Char} (h : (trim cs).head? = some c) :
    isBlank c = false := by
  obtain ⟨bs, -, hsplit⟩ := exists_trimStart_eq cs
  have hhead : (cs.dropWhile isBlank).head? = some c := by
    rw [← trimStart, hsplit, List.head?_append, h]
    rfl
  simpa [hhead] using List.head?_dropWhile_not isBlank cs

/-- **Trimming leaves the words alone.** -/
theorem words_trim (cs : List Char) : words (trim cs) = words cs := by
  obtain ⟨bs, hblank, hsplit⟩ := exists_trimStart_eq cs
  rw [← words_trimStart cs, hsplit, words_append_of_blank _ hblank]

/-- Blanks in front of a text are trimmed. -/
theorem trim_append_left {bs : List Char} (h : ∀ b ∈ bs, isBlank b = true) (cs : List Char) :
    trim (bs ++ cs) = trim cs := by
  rw [trim, trimStart, List.dropWhile_append_of_pos h, ← trimStart, ← trim]

/-- So are blanks behind it. -/
theorem trim_append_right (cs : List Char) {bs : List Char} (h : ∀ b ∈ bs, isBlank b = true) :
    trim (cs ++ bs) = trim cs := by
  have hend : ∀ as : List Char, trimEnd (as ++ bs) = trimEnd as := by
    intro as
    rw [trimEnd, List.reverse_append,
      List.dropWhile_append_of_pos fun b hb => h b (List.mem_reverse.mp hb), ← trimEnd]
  have hstart : trimStart bs = [] := List.dropWhile_eq_nil_iff.mpr h
  rw [trim, trimStart, List.dropWhile_append, ← trimStart, ← trimStart, hstart]
  split
  · rename_i hempty
    rw [trim, List.isEmpty_iff.mp hempty]
  · rw [hend, ← trim]

/-- Nothing is left to be trimmed of a trimmed text. -/
@[simp] theorem trim_trim (cs : List Char) : trim (trim cs) = trim cs := by
  obtain ⟨bs, hblank, hsplit⟩ := exists_trimStart_eq cs
  have hfront : ∀ b ∈ cs.takeWhile isBlank, isBlank b = true :=
    fun b hb => List.all_eq_true.mp List.all_takeWhile b hb
  have hwhole : cs = cs.takeWhile isBlank ++ (trim cs ++ bs) := by
    rw [← hsplit, trimStart, List.takeWhile_append_dropWhile]
  calc trim (trim cs) = trim (trim cs ++ bs) := (trim_append_right _ hblank).symm
    _ = trim (cs.takeWhile isBlank ++ (trim cs ++ bs)) := (trim_append_left hfront _).symm
    _ = trim cs := by rw [← hwhole]

@[simp] theorem collapse_trimmed (s : String) : collapse (trimmed s) = collapse s := by
  rw [collapse, trimmed, String.toList_ofList, words_trim, collapse]

theorem allBlank_iff {s : String} : allBlank s = true ↔ words s.toList = [] := by
  rw [allBlank, List.all_eq_true, words_eq_nil_iff]

/-- A text is blank before and after it is trimmed. -/
@[simp] theorem allBlank_trimmed (s : String) : allBlank (trimmed s) = allBlank s := by
  rw [Bool.eq_iff_iff, allBlank_iff, allBlank_iff, trimmed, String.toList_ofList, words_trim]

end Expectation.Text
