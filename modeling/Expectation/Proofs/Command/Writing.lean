import Expectation.Command.Files
import Mathlib.Data.List.Basic

/-!
# What writing a file changes

Writing makes the directories on the way to a file and then the file itself.
The directories do not touch what files hold, so a file that is written is the
only one that changes, and afterwards the path leads to it.  If the path led to a
file before, nothing has to be made on the way, and it is this file that holds
the new content.

All of this is said of any path, from the working directory or from the root.

## Main results

* `replaces_write`: a write that succeeds changes the file at the path only.
* `replaces_write_of_placeOf`: it is the file that was there, if there is one.
* `state_of_replaces`: what was written is read.
-/

namespace Expectation.Command.Files

variable {files : Files} {path : String} {place around next : List String}

/-- At a place the files hold given bytes afterwards, and everywhere else what
they held before. -/
def Replaces (files : Files) (place : List String) (bytes : List UInt8) (after : Files) :
    Prop :=
  ∀ other, after.contentAt other = if other = place then some bytes else files.contentAt other

/-! ## Directories -/

/-- Making directories leaves the files alone. -/
theorem contentAt_makeAlong (files : Files) (place parts other : List String) :
    (files.makeAlong place parts).1.contentAt other = files.contentAt other := by
  induction parts generalizing files place with
  | nil => rfl
  | cons part rest ih =>
      unfold makeAlong
      split
      · rfl
      · next next _ =>
          split
          · exact ih files next
          · split
            · rfl
            · exact ih (files.makeDirectory next) next

@[simp] theorem here_writeAt (files : Files) (place : List String) (bytes : List UInt8) :
    (files.writeAt place bytes).here = files.here := rfl

theorem follow_append (files : Files) (place front back : List String) :
    files.follow place (front ++ back) =
      match files.follow place front with
      | .error obstacle => .error obstacle
      | .ok around => files.follow around back := by
  induction front generalizing place with
  | nil => rfl
  | cons part rest ih =>
      rw [List.cons_append, follow, follow]
      split
      · rfl
      · split
        · rfl
        · exact ih _

/-- One step on a way that leads somewhere. -/
theorem follow_cons_eq_ok {part : String} {rest : List String}
    (h : files.follow place (part :: rest) = .ok around) :
    files.isDirectory place = true ∧
      ∃ next, enter files.here place part = .ok next ∧ files.follow next rest = .ok around := by
  rw [follow] at h
  split at h
  · simp at h
  · next hdirectory =>
      split at h
      · simp at h
      · next next henter => exact ⟨by simpa using hdirectory, next, henter, h⟩

/-- A way to a directory begins in a directory. -/
theorem isDirectory_of_follow {parts : List String}
    (h : files.follow place parts = .ok around) (hend : files.isDirectory around = true) :
    files.isDirectory place = true := by
  cases parts with
  | nil =>
      obtain rfl : place = around := by simpa [follow] using h
      exact hend
  | cons part rest => exact (follow_cons_eq_ok h).1

/-- On a way to a directory no directory has to be made. -/
theorem makeAlong_of_follow {parts : List String}
    (h : files.follow place parts = .ok around) (hend : files.isDirectory around = true) :
    files.makeAlong place (parts.filter fun part => !part.isEmpty && part != ".") =
      (files, none) := by
  induction parts generalizing place with
  | nil => rfl
  | cons part rest ih =>
      obtain ⟨-, next, henter, hrest⟩ := follow_cons_eq_ok h
      by_cases hpart : (!part.isEmpty && part != ".") = true
      · have hnext := isDirectory_of_follow hrest hend
        simp only [List.filter_cons, if_pos hpart, makeAlong, henter, hnext, if_true]
        exact ih hrest
      · have hstay : enter files.here place part = .ok place := by
          have hdot : (part.isEmpty || decide (part = ".")) = true := by
            by_cases hempty : part.isEmpty = true <;> simp_all
          rw [enter, if_pos (by simpa using hdot)]
        obtain rfl : place = next := by simpa [hstay] using henter
        simp only [List.filter_cons, if_neg hpart]
        exact ih hrest

/-! ## The place that is written -/

/-- What has been checked when there is a place for a file at a path. -/
theorem target_eq_ok (h : files.target path = .ok place) :
    path.isEmpty = false ∧ path.utf8ByteSize ≤ pathLimit ∧
      ∃ last front around, (partsOf path).reverse = last :: front ∧ last ≠ "" ∧
        files.follow (start files.here path) (front.dropWhile String.isEmpty).reverse =
          .ok around ∧
        files.isDirectory around = true ∧ enter files.here around last = .ok place ∧
        files.isDirectory place = false := by
  unfold target at h
  split at h
  · simp at h
  · next hpath =>
    split at h
    · simp at h
    · next hsize =>
      refine ⟨by simpa using hpath, by omega, ?_⟩
      split at h
      · split at h <;> simp at h
      · next hempty =>
          cases hparts : (partsOf path).reverse with
          | nil => simp [hparts, targetAt] at h
          | cons last front =>
              rw [hparts, targetAt] at h
              split at h
              · simp at h
              · next around haround =>
                  split at h
                  · simp at h
                  · next hdirectory =>
                      split at h
                      · simp at h
                      · next next hnext =>
                          split at h
                          · simp at h
                          · next hfile =>
                              obtain rfl : next = place := by simpa using h
                              have hlast : last ≠ "" := by
                                rintro rfl
                                exact hempty front hparts
                              exact ⟨last, front, around, rfl, hlast, haround,
                                by simpa using hdirectory, hnext, by simpa using hfile⟩

/-- What a write that succeeds consists of. -/
theorem write_of_writeFault (h : files.writeFault path = none) :
    ∃ made place,
      files.makeAlong (start files.here path) (stepsOf path).dropLast = (made, none) ∧
      made.target path = .ok place ∧
      ∀ bytes, (files.write path bytes).1 = made.writeAt place bytes := by
  unfold writeFault write at h
  cases hmade : files.makeAlong (start files.here path) (stepsOf path).dropLast with
  | mk made obstacle =>
      cases obstacle with
      | some obstacle => simp [hmade] at h
      | none =>
          cases htarget : made.target path with
          | error obstacle => simp [hmade, htarget] at h
          | ok place => exact ⟨made, place, rfl, htarget, fun bytes => by
              simp [write, hmade, htarget]⟩

theorem replaces_writeAt {parts : List String} {made : Files} {obstacle : Option Obstacle}
    (h : files.makeAlong around parts = (made, obstacle)) (place : List String)
    (bytes : List UInt8) : files.Replaces place bytes (made.writeAt place bytes) := by
  intro other
  have hmade := contentAt_makeAlong files around parts other
  rw [h] at hmade
  rw [contentAt_write, hmade]

/-! ## The place that is read -/

/-- Empty parts behind a way to a directory lead nowhere else. -/
theorem follow_of_dropWhile_isEmpty {back : List String}
    (h : files.follow place (back.dropWhile String.isEmpty).reverse = .ok around)
    (hend : files.isDirectory around = true) :
    files.follow place back.reverse = .ok around := by
  induction back with
  | nil => exact h
  | cons part back ih =>
      by_cases hempty : part.isEmpty = true
      · rw [List.dropWhile_cons_of_pos hempty] at h
        simp [follow_append, ih h, follow, hend, enter, hempty]
      · rwa [List.dropWhile_cons_of_neg hempty] at h

/-- **The place for a file at a path is where the path leads.** -/
theorem placeOf_of_target (h : files.target path = .ok place) :
    files.placeOf path = .ok place := by
  obtain ⟨hempty, hsize, last, front, around, hreverse, -, haround, hdirectory, henter, -⟩ :=
    target_eq_ok h
  have hparts : partsOf path = front.reverse ++ [last] := by
    rw [← List.reverse_reverse (partsOf path), hreverse, List.reverse_cons]
  rw [placeOf, hempty, if_neg (by simp), if_neg (by omega), hparts, follow_append,
    follow_of_dropWhile_isEmpty haround hdirectory]
  simp [follow, hdirectory, henter]

/-- What is followed when a path leads to a place. -/
theorem follow_of_placeOf (h : files.placeOf path = .ok place) :
    files.follow (start files.here path) (partsOf path) = .ok place := by
  unfold placeOf at h
  split at h
  · simp at h
  · split at h
    · simp at h
    · exact h

/-- A directory stays one when a file is written. -/
theorem isDirectory_writeAt {other : List String} (h : files.isDirectory other = true)
    (place : List String) (bytes : List UInt8) :
    (files.writeAt place bytes).isDirectory other = true := by
  simp only [isDirectory, writeAt, Bool.or_eq_true, List.any_cons, List.any_filter] at h ⊢
  rcases h with h | h
  · exact .inl h
  · obtain ⟨entry, hentry, hinside⟩ := List.any_eq_true.mp h
    by_cases hplace : entry.1 = place
    · exact .inr (.inl (hplace ▸ hinside))
    · exact .inr (.inr (List.any_eq_true.mpr ⟨entry, hentry, by simp_all⟩))

theorem follow_writeAt {start parts : List String} (h : files.follow start parts = .ok around)
    (place : List String) (bytes : List UInt8) :
    (files.writeAt place bytes).follow start parts = .ok around := by
  induction parts generalizing start with
  | nil => exact h
  | cons part rest ih =>
      obtain ⟨hdirectory, next, henter, hrest⟩ := follow_cons_eq_ok h
      rw [follow, isDirectory_writeAt hdirectory, here_writeAt, henter]
      exact ih hrest

/-- A path leads to the same place when a file is written. -/
theorem placeOf_writeAt (h : files.placeOf path = .ok around) (place : List String)
    (bytes : List UInt8) : (files.writeAt place bytes).placeOf path = .ok around := by
  have hway := follow_writeAt (follow_of_placeOf h) place bytes
  unfold placeOf at h ⊢
  split at h
  · simp at h
  · next hempty =>
      split at h
      · simp at h
      · next hsize => rwa [if_neg hempty, if_neg hsize, here_writeAt]

/-! ## Writing and reading -/

/-- **A write that succeeds changes the file at the path only.** -/
theorem replaces_write (h : files.writeFault path = none) (bytes : List UInt8) :
    ∃ place, (files.write path bytes).1.placeOf path = .ok place ∧
      files.Replaces place bytes (files.write path bytes).1 := by
  obtain ⟨made, place, hmade, htarget, hwrite⟩ := write_of_writeFault h
  rw [hwrite]
  exact ⟨place, placeOf_writeAt (placeOf_of_target htarget) place bytes,
    replaces_writeAt hmade place bytes⟩

/-- If a path leads somewhere, no directory is missing on the way. -/
theorem makeAlong_of_placeOf {made : Files} {written : List String}
    (hplace : files.placeOf path = .ok place)
    (hmade : files.makeAlong (start files.here path) (stepsOf path).dropLast = (made, none))
    (htarget : made.target path = .ok written) : made = files := by
  obtain ⟨-, -, last, front, around, hreverse, hlast, -, hdirectory, henter, hfile⟩ :=
    target_eq_ok htarget
  have hparts : partsOf path = front.reverse ++ [last] := by
    rw [← List.reverse_reverse (partsOf path), hreverse, List.reverse_cons]
  have hdot : last ≠ "." := by
    rintro rfl
    obtain rfl : around = written := by simpa [enter] using henter
    exact absurd (hdirectory.symm.trans hfile) (by decide)
  have hsteps : (stepsOf path).dropLast =
      front.reverse.filter fun part => !part.isEmpty && part != "." := by
    simp [stepsOf, hparts, hlast, hdot]
  have hfollow := follow_of_placeOf hplace
  rw [hparts, follow_append] at hfollow
  split at hfollow
  · simp at hfollow
  · next before hbefore =>
      have hnone := makeAlong_of_follow hbefore (follow_cons_eq_ok hfollow).1
      rw [← hsteps, hmade] at hnone
      exact congrArg Prod.fst hnone

/-- **Writing at the path of a file replaces the file**, if the write succeeds. -/
theorem replaces_write_of_placeOf (h : files.writeFault path = none)
    (hplace : files.placeOf path = .ok place) (bytes : List UInt8) :
    (files.write path bytes).1.placeOf path = .ok place ∧
      files.Replaces place bytes (files.write path bytes).1 := by
  obtain ⟨made, written, hmade, htarget, hwrite⟩ := write_of_writeFault h
  obtain rfl := makeAlong_of_placeOf hplace hmade htarget
  obtain rfl : written = place := by simpa [placeOf_of_target htarget] using hplace
  rw [hwrite]
  exact ⟨placeOf_writeAt hplace written bytes, replaces_writeAt hmade written bytes⟩

/-- **What was written is read.** -/
theorem state_of_replaces {after : Files} {bytes : List UInt8}
    (hplace : after.placeOf path = .ok place) (h : files.Replaces place bytes after) :
    after.state path = .content bytes := by
  simp [state, hplace, h place]

/-- A path leads to the file that is read at it. -/
theorem placeOf_of_content {bytes : List UInt8} (h : files.state path = .content bytes) :
    ∃ place, files.placeOf path = .ok place := by
  unfold state at h
  split at h
  · simp at h
  · simp at h
  · next place hplace => exact ⟨place, hplace⟩

end Expectation.Command.Files
