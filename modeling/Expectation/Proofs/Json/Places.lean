import Expectation.Json.Options
import Expectation.Proofs.Text.Digits

/-!
# Options that name no items

The entries of the options are compared with paths as texts.  An entry without
an opening bracket cannot name an item of an array, nor anything below one by
its full path.  It can still name the last segment of a path, but such a segment
either lies wholly behind the item or contains the bracket of the item itself.
And it covers an item exactly if it covers the array.

So under options all of whose entries are of this kind the items of an array
are interchangeable: they, and the places below them, are treated alike.

## Main results

* `Options.ignores_indexPath_append`, `Options.unordered_indexPath_append`: what
  the options say about places in an item does not depend on its index.
* `Options.Interchangeable.item`: items are interchangeable.
-/

namespace Expectation.Json

namespace Options

/-- No entry names an item of an array. -/
def IndexFree (o : Options) : Prop :=
  ∀ entry ∈ o.ignoredFields ++ o.ignoreArrayOrderPaths, '[' ∉ entry.toList

/-! ## The last segment -/

/-- A path ends in a text with a point: the last segment lies in that text. -/
theorem lastSegment_append_of_mem (p : String) {s : String} (h : '.' ∈ s.toList) :
    lastSegment (p ++ s) = lastSegment s := by
  have hstop : (s.toList.reverse.takeWhile (· != '.')).length ≠ s.toList.reverse.length := by
    intro hlength
    have hall := List.all_takeWhile (p := (· != '.')) (l := s.toList.reverse)
    rw [(List.takeWhile_prefix (· != '.')).eq_of_length hlength] at hall
    exact absurd (List.all_eq_true.mp hall '.' (List.mem_reverse.mpr h)) (by decide)
  unfold lastSegment
  rw [String.toList_append, List.reverse_append, List.takeWhile_append, if_neg hstop]

/-- A path ends in a text without points: the last segment contains that text. -/
theorem mem_lastSegment_append (p : String) {s : String} (h : '.' ∉ s.toList) {c : Char}
    (hc : c ∈ s.toList) : c ∈ (lastSegment (p ++ s)).toList := by
  have hall : ∀ d ∈ s.toList.reverse, (d != '.') = true := by
    intro d hd
    simp only [bne_iff_ne, ne_eq]
    rintro rfl
    exact h (List.mem_reverse.mp hd)
  unfold lastSegment
  rw [String.toList_append, List.reverse_append, List.takeWhile_append_of_pos hall]
  simp [hc]

theorem toList_indexPath_append (p : String) (i : Nat) (s : String) :
    (indexPath p i ++ s).toList =
      p.toList ++ '[' :: (Nat.toDigits 10 i ++ ']' :: s.toList) := by
  simp [indexPath]

/-- **Whether a place in an item is left out** depends on the way below the item
only. -/
theorem ignores_indexPath_append {o : Options} (ho : o.IndexFree) (p : String) (i : Nat)
    (s : String) :
    o.ignores (indexPath p i ++ s) =
      (decide ('.' ∈ s.toList) && o.ignoredFields.any (· == lastSegment s)) := by
  have hfree : ∀ f ∈ o.ignoredFields, '[' ∉ f.toList :=
    fun f hf => ho f (List.mem_append_left _ hf)
  have hbracket : '[' ∈ (indexPath p i ++ s).toList := by
    rw [toList_indexPath_append]
    exact List.mem_append_right _ List.mem_cons_self
  have hfull : ∀ f ∈ o.ignoredFields, (f == indexPath p i ++ s) = false := by
    intro f hf
    refine beq_eq_false_iff_ne.mpr ?_
    rintro rfl
    exact hfree _ hf hbracket
  have hfields : o.ignores (indexPath p i ++ s) =
      o.ignoredFields.any (· == lastSegment (indexPath p i ++ s)) := by
    rw [Bool.eq_iff_iff, ignores, List.any_eq_true, List.any_eq_true]
    exact exists_congr fun f => and_congr_right fun hf => by rw [hfull f hf, Bool.false_or]
  rw [hfields]
  by_cases hpoint : '.' ∈ s.toList
  · simp [hpoint, lastSegment_append_of_mem _ hpoint]
  · have hitem : indexPath p i ++ s = p ++ ("[" ++ toString i ++ "]" ++ s) := by
      simp [indexPath, String.append_assoc]
    have hsegment : '[' ∈ (lastSegment (indexPath p i ++ s)).toList := by
      rw [hitem]
      refine mem_lastSegment_append p ?_ (by simp)
      have hdigits : '.' ∉ Nat.toDigits 10 i := fun h =>
        absurd (Text.isDigit_of_mem_toDigits h) (by decide)
      simp [hdigits, hpoint]
    have hnone : o.ignoredFields.any (· == lastSegment (indexPath p i ++ s)) = false := by
      refine List.any_eq_false.mpr fun f hf => ?_
      simp only [beq_iff_eq]
      rintro rfl
      exact hfree _ hf hsegment
    simp [hnone, hpoint]

/-! ## Covered places -/

theorem covers_eq_true_iff (entry path : String) :
    covers entry path = true ↔
      path.toList = entry.toList ∨
        ∃ c rest, path.toList = entry.toList ++ c :: rest ∧ (c = '.' ∨ c = '[') := by
  unfold covers
  rw [Bool.or_eq_true, Bool.and_eq_true, beq_iff_eq, String.toList_inj,
    List.isPrefixOf_iff_prefix]
  refine or_congr Iff.rfl ?_
  constructor
  · rintro ⟨⟨rest, hrest⟩, hnext⟩
    rw [← hrest, List.drop_left] at hnext
    cases rest with
    | nil => simp at hnext
    | cons c rest => exact ⟨c, rest, hrest.symm, by simpa using hnext⟩
  · rintro ⟨c, rest, hpath, hc⟩
    refine ⟨⟨c :: rest, hpath.symm⟩, ?_⟩
    rw [hpath, List.drop_left]
    simpa using hc

/-- An entry that names no item covers what lies in an item exactly if it covers
the array. -/
theorem covers_indexPath_append {entry : String} (h : '[' ∉ entry.toList) (p : String)
    (i : Nat) (s : String) : covers entry (indexPath p i ++ s) = covers entry p := by
  rw [Bool.eq_iff_iff, covers_eq_true_iff, covers_eq_true_iff, toList_indexPath_append]
  constructor
  · rintro (hsame | ⟨c, rest, hpath, hc⟩)
    · exact absurd (hsame ▸ List.mem_append_right _ List.mem_cons_self) h
    · rcases List.append_eq_append_iff.mp hpath with ⟨t, hentry, htail⟩ | ⟨t, hfront, htail⟩
      · cases t with
        | nil => exact .inl (by simpa using hentry.symm)
        | cons d t =>
            obtain ⟨rfl, -⟩ := List.cons_eq_cons.mp htail
            exact absurd (hentry ▸ List.mem_append_right _ List.mem_cons_self) h
      · cases t with
        | nil => exact .inl (by simpa using hfront)
        | cons d t =>
            obtain ⟨rfl, -⟩ := List.cons_eq_cons.mp htail
            exact .inr ⟨c, t, hfront, hc⟩
  · rintro (hsame | ⟨c, rest, hpath, hc⟩)
    · exact .inr ⟨'[', _, by rw [hsame], .inr rfl⟩
    · refine .inr ⟨c, rest ++ '[' :: (Nat.toDigits 10 i ++ ']' :: s.toList), ?_, hc⟩
      rw [hpath, List.append_assoc, List.cons_append]

/-- **Whether the order of an array in an item counts** is settled by the array
that has the item. -/
theorem unordered_indexPath_append {o : Options} (ho : o.IndexFree) (p : String) (i : Nat)
    (s : String) : o.unordered (indexPath p i ++ s) = o.unordered p := by
  refine congrArg (o.ignoreArrayOrder || ·) ?_
  rw [Bool.eq_iff_iff, List.any_eq_true, List.any_eq_true]
  refine exists_congr fun entry => and_congr_right fun hentry => ?_
  rw [covers_indexPath_append (ho entry (List.mem_append_right _ hentry))]

/-! ## Interchangeable places -/

/-- The options say the same about two places and about what lies below them. -/
def Interchangeable (o : Options) (p q : String) : Prop :=
  ∀ s : String, o.ignores (p ++ s) = o.ignores (q ++ s) ∧
    o.unordered (p ++ s) = o.unordered (q ++ s)

namespace Interchangeable

variable {o : Options} {p q : String}

theorem refl (p : String) : o.Interchangeable p p := fun _ => ⟨rfl, rfl⟩

theorem ignores_eq (h : o.Interchangeable p q) : o.ignores p = o.ignores q := by
  simpa using (h "").1

theorem unordered_eq (h : o.Interchangeable p q) : o.unordered p = o.unordered q := by
  simpa using (h "").2

/-- Members at the same key of interchangeable places are interchangeable. -/
theorem member (h : o.Interchangeable p q) (key : String) :
    o.Interchangeable (keyPath p key) (keyPath q key) := by
  intro s
  simpa [keyPath, String.append_assoc] using h ("." ++ key ++ s)

/-- **Items are interchangeable**, whatever their indices. -/
theorem item (ho : o.IndexFree) (h : o.Interchangeable p q) (i j : Nat) :
    o.Interchangeable (indexPath p i) (indexPath q j) := by
  intro s
  rw [ignores_indexPath_append ho, ignores_indexPath_append ho,
    unordered_indexPath_append ho, unordered_indexPath_append ho]
  exact ⟨rfl, h.unordered_eq⟩

end Interchangeable

end Options

end Expectation.Json
