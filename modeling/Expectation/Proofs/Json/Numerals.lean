import Expectation.Proofs.Json.Origin
import Expectation.Proofs.Json.Readback
import Expectation.Proofs.Json.Taking
import Mathlib.Data.List.TakeWhile

/-!
# Reading printed numbers back

A printed floating-point number need not be read as the same number, because the
reader rounds twice.  Whether it is can be seen from its text alone: the readers
for numbers are local.  What they take off the front of an input they take
again, with the same result, whatever stands behind it, if that ends a number.

## Main results

* `local_number`: numbers are read locally.
* `isNumeral_floatText`: the characters of a printed number.
* `rereads_float`: a number whose text reads as the number is read back wherever
  it is printed.
-/

namespace Expectation.Json

/-! ## Numbers are read locally -/

/-- A reader that succeeds takes a front of its input, and takes the same front whatever ends
behind it. -/
def Local {α : Type} (f : Reader α) : Prop :=
  ∀ {cs rest : Input} {a : α}, f cs = .ok (a, rest) →
    ∃ front, cs = front ++ rest ∧ ∀ after, Ends after → f (front ++ after) = .ok (a, after)

theorem decimalDigit?_of_ends {rest : Input} (h : Ends rest) :
    ∀ s ∈ rest.head?, decimalDigit? s = none := by
  intro s hs
  rcases h s hs with rfl | rfl <;> rfl

/-- Digits are taken up to the first other symbol. -/
theorem digits_local {cs rest : Input} {ds : List Nat} (h : digits cs = (ds, rest)) :
    (∀ s ∈ rest.head?, decimalDigit? s = none) ∧ ∃ front, cs = front ++ rest ∧
      ∀ after : Input, (∀ s ∈ after.head?, decimalDigit? s = none) →
        digits (front ++ after) = (ds, after) := by
  have hnone : ∀ after : Input, (∀ s ∈ after.head?, decimalDigit? s = none) →
      digits after = ([], after) := by
    intro after hafter
    cases after with
    | nil => rfl
    | cons s after => rw [digits, hafter s rfl]
  induction cs generalizing ds with
  | nil =>
      obtain ⟨rfl, rfl⟩ : [] = ds ∧ [] = rest := by simpa [digits] using h
      exact ⟨by simp, [], rfl, hnone⟩
  | cons s cs ih =>
      rw [digits] at h
      cases hs : decimalDigit? s with
      | none =>
          obtain ⟨rfl, rfl⟩ : [] = ds ∧ s :: cs = rest := by simpa [hs] using h
          exact ⟨by simpa using hs, [], rfl, hnone⟩
      | some d =>
          obtain ⟨rfl, rfl⟩ : d :: (digits cs).1 = ds ∧ (digits cs).2 = rest := by
            simpa [hs] using h
          obtain ⟨hhead, front, hfront, hlocal⟩ := ih rfl
          refine ⟨hhead, s :: front, congrArg (s :: ·) hfront, fun after hafter => ?_⟩
          rw [List.cons_append, digits, hs, hlocal after hafter]

/-- The value of a number does not depend on what follows it. -/
theorem floatValue_local {negative : Bool} {n : Nat} {scale : Int} {cs rest : Input} {v : Value}
    (h : floatValue negative n scale cs = .ok (v, rest)) :
    cs = rest ∧ ∀ after, floatValue negative n scale after = .ok (v, after) := by
  unfold floatValue at h ⊢
  cases hx : scaled? n scale with
  | none => simp [hx, fail] at h
  | some x =>
      obtain ⟨rfl, rfl⟩ : withSign negative x = v ∧ cs = rest := by simpa [hx] using h
      exact ⟨rfl, fun after => rfl⟩

/-- The digits of an exponent are taken, and nothing else. -/
theorem exponentDigits_local {e e' : Nat} {cs rest : Input}
    (h : exponentDigits e cs = .ok (e', rest)) :
    ∃ front, cs = front ++ rest ∧
      ∀ after, Ends after → exponentDigits e (front ++ after) = .ok (e', after) := by
  have hnone : ∀ e (after : Input), Ends after → exponentDigits e after = .ok (e, after) := by
    intro e after hafter
    cases after with
    | nil => rfl
    | cons s after => rw [exponentDigits, decimalDigit?_of_ends hafter s rfl]
  induction cs generalizing e with
  | nil =>
      obtain ⟨rfl, rfl⟩ : e = e' ∧ [] = rest := by simpa [exponentDigits] using h
      exact ⟨[], rfl, hnone e⟩
  | cons s cs ih =>
      rw [exponentDigits] at h
      cases hs : decimalDigit? s with
      | none =>
          obtain ⟨rfl, rfl⟩ : e = e' ∧ s :: cs = rest := by simpa [hs] using h
          exact ⟨[], rfl, hnone e⟩
      | some d =>
          by_cases hd : e * 10 + d ≤ exponentLimit
          · obtain ⟨front, rfl, hlocal⟩ := ih (by simpa [hs, hd] using h)
            refine ⟨s :: front, rfl, fun after hafter => ?_⟩
            rw [List.cons_append, exponentDigits, hs]
            simp only [if_pos hd, hlocal after hafter]
          · simp [hs, hd] at h

/-- So are those of an exponent that is too large, up to the first too many. -/
theorem exponentDigits_error_local {e : Nat} {cs rest : Input}
    (h : exponentDigits e cs = .error rest) :
    ∃ s front, cs = s :: (front ++ rest) ∧ (decimalDigit? s).isSome ∧
      ∀ after, exponentDigits e (s :: (front ++ after)) = .error after := by
  induction cs generalizing e with
  | nil => simp [exponentDigits] at h
  | cons s cs ih =>
      rw [exponentDigits] at h
      cases hs : decimalDigit? s with
      | none => simp [hs] at h
      | some d =>
          by_cases hd : e * 10 + d ≤ exponentLimit
          · obtain ⟨t, front, rfl, -, hlocal⟩ := ih (by simpa [hs, hd] using h)
            refine ⟨s, t :: front, rfl, by simp [hs], fun after => ?_⟩
            rw [exponentDigits, hs]
            simp only [if_pos hd, List.cons_append, hlocal after]
          · obtain rfl : cs = rest := by simpa [hs, hd] using h
            refine ⟨s, [], rfl, by simp [hs], fun after => ?_⟩
            simp [exponentDigits, hs, hd]

/-- A sign that is there is taken; otherwise nothing is. -/
theorem exponentSign_local (cs : Input) :
    ∃ front, cs = front ++ (exponentSign cs).2 ∧
      ∀ s after, (decimalDigit? s).isSome →
        exponentSign (front ++ s :: after) = ((exponentSign cs).1, s :: after) := by
  unfold exponentSign
  split
  · exact ⟨[.char '+'], rfl, fun _ _ _ => rfl⟩
  · exact ⟨[.char '-'], rfl, fun _ _ _ => rfl⟩
  · refine ⟨[], rfl, fun s after hs => ?_⟩
    split
    · next heq =>
        obtain ⟨rfl, -⟩ := List.cons.inj heq
        exact absurd hs (by decide)
    · next heq =>
        obtain ⟨rfl, -⟩ := List.cons.inj heq
        exact absurd hs (by decide)
    · rfl

theorem local_unsignedExponent (negative down : Bool) (n : Nat) (scale : Int) :
    Local (unsignedExponent negative down n scale) := by
  intro cs rest v h
  cases cs with
  | nil => simp [unsignedExponent, fail] at h
  | cons s cs =>
      rw [unsignedExponent] at h
      cases hs : decimalDigit? s with
      | none => simp [hs] at h
      | some d =>
          simp only [hs, Option.isNone_some, Bool.false_eq_true, if_false] at h
          cases hdigits : exponentDigits 0 (s :: cs) with
          | error mid =>
              obtain ⟨t, front, hcs, ht, hlocal⟩ := exponentDigits_error_local hdigits
              obtain ⟨-, back, hmid, hback⟩ := digits_local (rfl : digits mid = (_, (digits mid).2))
              by_cases hn : (n != 0 && !down) = true
              · simp [hdigits, hn, fail] at h
              · obtain ⟨rfl, rfl⟩ : withSign negative (.ofNat 0) = v ∧ (digits mid).2 = rest := by
                  simpa [hdigits, hn] using h
                refine ⟨t :: (front ++ back), ?_, fun after hafter => ?_⟩
                · rw [hcs, List.cons_append, List.append_assoc, ← hmid]
                · rw [List.cons_append, List.append_assoc, unsignedExponent, hlocal]
                  have hdigit : (decimalDigit? t).isNone = false := by simpa using ht
                  simp [hdigit, hn, hback after (decimalDigit?_of_ends hafter)]
          | ok result =>
              obtain ⟨e, mid⟩ := result
              rw [hdigits] at h
              obtain ⟨rfl, hvalue⟩ := floatValue_local h
              rw [exponentDigits, hs] at hdigits
              by_cases hd : 0 * 10 + d ≤ exponentLimit
              · simp only [if_pos hd] at hdigits
                obtain ⟨front, rfl, hlocal⟩ := exponentDigits_local hdigits
                refine ⟨s :: front, rfl, fun after hafter => ?_⟩
                have hfirst : exponentDigits 0 (s :: (front ++ after)) = .ok (e, after) := by
                  rw [exponentDigits, hs]
                  simp only [if_pos hd, hlocal after hafter]
                rw [List.cons_append, unsignedExponent, hfirst]
                simp [hs, hvalue]
              · simp only [if_neg hd] at hdigits
                exact absurd hdigits (by simp)

theorem local_exponentPart (negative : Bool) (n : Nat) (scale : Int) :
    Local (exponentPart negative n scale) := by
  intro cs rest v h
  rw [exponentPart_eq] at h
  obtain ⟨front, hfront, hsign⟩ := exponentSign_local cs
  obtain ⟨back, hback, hlocal⟩ := local_unsignedExponent _ _ _ _ h
  refine ⟨front ++ back, by rw [List.append_assoc, ← hback, ← hfront], fun after hafter => ?_⟩
  have hread := hlocal after hafter
  rw [exponentPart_eq, List.append_assoc]
  -- the exponent has a digit, and so its sign is the one that was read
  cases hnext : back ++ after with
  | nil => simp [hnext, unsignedExponent, fail] at hread
  | cons s next =>
      have hs : (decimalDigit? s).isSome := by
        by_contra hnone
        rw [hnext, unsignedExponent, if_pos (by simpa using hnone)] at hread
        simp at hread
      rw [hsign s next hs, ← hnext]
      exact hread

/-- What follows the digits of a number is no digit and no other part of it. -/
theorem afterDigits_of_ends {negative : Bool} {n : Nat} {scale : Int} {after : Input}
    (hafter : Ends after) : afterDigits negative n scale after =
      floatValue negative n scale after := by
  cases after with
  | nil => rfl
  | cons s after => rcases hafter s rfl with rfl | rfl <;> rfl

theorem local_afterDigits (negative : Bool) (n : Nat) (scale : Int) :
    Local (afterDigits negative n scale) := by
  intro cs rest v h
  unfold afterDigits at h
  split at h
  · next cs =>
      obtain ⟨front, rfl, hlocal⟩ := local_exponentPart _ _ _ h
      exact ⟨.char 'e' :: front, rfl, hlocal⟩
  · next cs =>
      obtain ⟨front, rfl, hlocal⟩ := local_exponentPart _ _ _ h
      exact ⟨.char 'E' :: front, rfl, hlocal⟩
  · obtain ⟨rfl, hvalue⟩ := floatValue_local h
    exact ⟨[], rfl, fun after hafter => (afterDigits_of_ends hafter).trans (hvalue after)⟩

/-- A reader behind digits that reads locally makes the whole read locally. -/
theorem digits_then_local {f : Reader Value} (hf : Local f) {cs mid rest : Input} {ds : List Nat}
    {v : Value} (hdigits : digits cs = (ds, mid)) (h : f mid = .ok (v, rest)) :
    ∃ front, cs = front ++ rest ∧ ∀ after, Ends after →
      ∃ mid', digits (front ++ after) = (ds, mid') ∧ f mid' = .ok (v, after) := by
  obtain ⟨hhead, front, rfl, hlocal⟩ := digits_local hdigits
  obtain ⟨back, rfl, hafter⟩ := hf h
  refine ⟨front ++ back, (List.append_assoc ..).symm, fun after hends => ⟨back ++ after, ?_, ?_⟩⟩
  · rw [List.append_assoc]
    refine hlocal _ ?_
    cases back with
    | nil => exact decimalDigit?_of_ends hends
    | cons s back => exact hhead
  · exact hafter after hends

theorem local_fractionPart (negative : Bool) (n : Nat) (scale : Int) :
    Local (fractionPart negative n scale) := by
  intro cs rest v h
  unfold fractionPart at h ⊢
  cases hdigits : digits cs with
  | mk ds mid =>
      cases ds with
      | nil => simp [hdigits, failNext] at h
      | cons d ds =>
          rw [hdigits] at h
          obtain ⟨front, hfront, hlocal⟩ := digits_then_local (local_afterDigits _ _ _) hdigits h
          refine ⟨front, hfront, fun after hends => ?_⟩
          obtain ⟨mid', hagain, hread⟩ := hlocal after hends
          rw [hagain]
          exact hread

theorem local_afterInteger (negative : Bool) (n left : Nat) :
    Local (afterInteger negative n left) := by
  have hend : ∀ after, Ends after → afterInteger negative n left after =
      if left = 0 then .ok (integerValue negative n, after)
      else floatValue negative n left after := by
    intro after hafter
    cases after with
    | nil => rfl
    | cons s after => rcases hafter s rfl with rfl | rfl <;> rfl
  intro cs rest v h
  unfold afterInteger at h
  split at h
  · obtain ⟨front, rfl, hlocal⟩ := local_fractionPart _ _ _ h
    exact ⟨.char '.' :: front, rfl, hlocal⟩
  · obtain ⟨front, rfl, hlocal⟩ := local_exponentPart _ _ _ h
    exact ⟨.char 'e' :: front, rfl, hlocal⟩
  · obtain ⟨front, rfl, hlocal⟩ := local_exponentPart _ _ _ h
    exact ⟨.char 'E' :: front, rfl, hlocal⟩
  · split at h
    · next hleft =>
        obtain ⟨rfl, rfl⟩ : integerValue negative n = v ∧ _ = rest := by simpa using h
        refine ⟨[], rfl, fun after hafter => ?_⟩
        rw [List.nil_append, hend after hafter, if_pos hleft]
    · next hleft =>
        obtain ⟨rfl, hvalue⟩ := floatValue_local h
        refine ⟨[], rfl, fun after hafter => ?_⟩
        rw [List.nil_append, hend after hafter, if_neg hleft, hvalue]

/-- **Numbers are read locally.** -/
theorem local_number (negative : Bool) : Local (number negative) := by
  intro cs rest v h
  cases hdigits : digits cs with
  | mk ds mid =>
      cases ds with
      | nil => cases mid <;> simp [number, hdigits, fail] at h
      | cons d ds =>
          by_cases hzero : (d = 0 && !ds.isEmpty) = true
          · simp [number, hdigits, hzero] at h
          · rw [number_of_digits hdigits hzero] at h
            obtain ⟨front, hfront, hlocal⟩ :=
              digits_then_local (local_afterInteger _ _ _) hdigits h
            refine ⟨front, hfront, fun after hends => ?_⟩
            obtain ⟨mid', hagain, hread⟩ := hlocal after hends
            rw [number_of_digits hagain hzero]
            exact hread

/-! ## The text of a number -/

/-- The characters of a printed number: digits, signs, and the letters of the word that
stands for infinity and NaN. -/
def IsNumeral (c : Char) : Prop := c.isDigit = true ∨ c ∈ ['-', '+', '.', 'e', 'n', 'u', 'l']

instance (c : Char) : Decidable (IsNumeral c) := inferInstanceAs (Decidable (_ ∨ _))

theorem isNumeral_toDigits {n : Nat} : ∀ c ∈ Nat.toDigits 10 n, IsNumeral c :=
  fun _ hc => .inl (Text.isDigit_of_mem_toDigits hc)

theorem isNumeral_zeros {n : Nat} : ∀ c ∈ List.replicate n '0', IsNumeral c := by
  intro c hc
  rw [List.eq_of_mem_replicate hc]
  decide

theorem isNumeral_toString (i : Int) : ∀ c ∈ (toString i).toList, IsNumeral c := by
  rw [Text.toList_toString_int]
  split
  · exact isNumeral_toDigits
  · exact List.forall_mem_cons.mpr ⟨by decide, isNumeral_toDigits⟩

theorem isNumeral_render (style : Binary64.Style) (d : Binary64.Decimal) :
    ∀ c ∈ (d.render style).toList, IsNumeral c := by
  have htake : ∀ n, ∀ c ∈ (Nat.toDigits 10 d.digits).take n, IsNumeral c :=
    fun n c hc => isNumeral_toDigits c (List.mem_of_mem_take hc)
  have hdrop : ∀ n, ∀ c ∈ (Nat.toDigits 10 d.digits).drop n, IsNumeral c :=
    fun n c hc => isNumeral_toDigits c (List.mem_of_mem_drop hc)
  have hpoint : IsNumeral '.' := by decide
  have hzero : IsNumeral '0' := by decide
  have hletter : IsNumeral 'e' := by decide
  unfold Binary64.Decimal.render
  simp only [String.toList_ofList]
  split
  · split
    · refine List.forall_mem_append.mpr
        ⟨List.forall_mem_append.mpr ⟨isNumeral_toDigits, isNumeral_zeros⟩, ?_⟩
      split
      · simp [hpoint, hzero]
      · simp
    · split
      · exact List.forall_mem_append.mpr
          ⟨htake _, List.forall_mem_cons.mpr ⟨hpoint, hdrop _⟩⟩
      · refine List.forall_mem_append.mpr ⟨?_, isNumeral_toDigits⟩
        exact List.forall_mem_cons.mpr ⟨hzero, List.forall_mem_cons.mpr ⟨hpoint, isNumeral_zeros⟩⟩
  · refine List.forall_mem_append.mpr ⟨List.forall_mem_append.mpr
      ⟨List.forall_mem_append.mpr ⟨htake 1, ?_⟩, List.forall_mem_cons.mpr ⟨hletter, ?_⟩⟩,
      isNumeral_toString _⟩
    · split
      · simp
      · exact List.forall_mem_cons.mpr ⟨hpoint, hdrop 1⟩
    · split
      · exact List.forall_mem_singleton.mpr (by decide)
      · simp

theorem isNumeral_floatText (x : Binary64) : ∀ c ∈ (floatText x).toList, IsNumeral c := by
  unfold floatText Binary64.render
  split
  · rw [String.toList_append]
    refine List.forall_mem_append.mpr ⟨?_, ?_⟩
    · split <;> simp [IsNumeral]
    · split
      · split <;> simp [IsNumeral]
      · exact isNumeral_render _ _
  · simp [IsNumeral]

theorem isSpace_of_isNumeral {c : Char} (h : IsNumeral c) : isSpace (.char c) = false := by
  rcases h with h | h
  · exact isSpace_of_isDigit h
  · have hall : ∀ d ∈ ['-', '+', '.', 'e', 'n', 'u', 'l'], isSpace (.char d) = false :=
      List.all_iff_forall_prop.mp (by decide)
    exact hall c h

/-! ## Reading the text of a number -/

/-- What a whole text spells stands at its front, and only blanks follow. -/
theorem value_of_readString {text : String} {v : Value} (h : readString text = .ok v) :
    ∃ rest, value depthLimit (symbols text.toList) = .ok (v, rest) ∧
      ∀ s ∈ rest, isSpace s = true := by
  unfold readString read document at h
  split at h
  · next w hw =>
      cases h
      split at hw
      · exact absurd hw (by simp)
      · next u rest hu =>
          obtain ⟨_, hend, rfl⟩ := exists_ok_of_map hw
          refine ⟨rest, hu, ?_⟩
          unfold atEnd skipSpace at hend
          split at hend
          · next hskip => exact List.dropWhile_eq_nil_iff.mp hskip
          · exact absurd hend (by simp [failNext])
  · exact absurd h (by simp)

/-- **Where a floating-point number comes from.**  Its text begins with a digit or with a
sign, and is a number throughout. -/
theorem number_of_valueWith {part : Option (Reader Value)} {s : Text.Symbol} {cs rest : Input}
    {x : Binary64} (hs : isSpace s = false)
    (h : valueWith part (s :: cs) = .ok (.float x, rest)) :
    (s = .char '-' ∧ number true cs = .ok (.float x, rest)) ∨
      ∃ c, s = .char c ∧ c.isDigit = true ∧ number false (s :: cs) = .ok (.float x, rest) := by
  have hskip : skipSpace (s :: cs) = s :: cs := by
    rw [skipSpace, List.dropWhile_cons_of_neg (by simp [hs])]
  have hother : ∀ {α : Type} (y : Except Failure α) (f : α → Value × Input),
      (∀ a, (f a).1 ≠ .float x) → y.map f ≠ .ok (.float x, rest) := by
    intro α y f hf hy
    obtain ⟨a, -, ha⟩ := exists_ok_of_map hy
    exact hf a (congrArg Prod.fst ha)
  unfold valueWith at h
  rw [hskip] at h
  split at h
  · next heq => exact absurd heq (by simp)
  · exact absurd h (by simp [failNext])
  · next c rest' heq =>
      obtain ⟨rfl, rfl⟩ := List.cons.inj heq
      split at h
      · exact absurd h (hother _ _ (by simp))
      · exact absurd h (hother _ _ (by simp))
      · exact absurd h (hother _ _ (by simp))
      · exact .inl ⟨rfl, h⟩
      · exact absurd h (hother _ _ (by simp))
      · split at h
        · exact absurd h (by simp [failNext])
        · exact absurd h (hother _ _ (by simp))
      · split at h
        · exact absurd h (by simp [failNext])
        · exact absurd h (hother _ _ (by simp))
      · split at h
        · next hdigit => exact .inr ⟨c, rfl, hdigit, h⟩
        · exact absurd h (by simp [failNext])

/-- A number that takes all of a text but blanks takes all of it, and the same wherever the
text stands. -/
theorem number_append {negative : Bool} {cs rest after : Input} {v : Value}
    (h : number negative cs = .ok (v, rest)) (hcs : ∀ s ∈ cs, isSpace s = false)
    (hrest : ∀ s ∈ rest, isSpace s = true) (hafter : Ends after) :
    number negative (cs ++ after) = .ok (v, after) := by
  obtain ⟨front, rfl, hlocal⟩ := local_number negative h
  obtain rfl : rest = [] := by
    refine List.eq_nil_iff_forall_not_mem.mpr fun s hs => ?_
    have hno := hcs s (List.mem_append_right front hs)
    exact absurd (hrest s hs) (by simp [hno])
  rw [List.append_nil]
  exact hlocal after hafter

/-- The number that the text of a floating-point number is read as, if it is one. -/
def rereadFloat? (x : Binary64) : Option Binary64 :=
  match readString (floatText x) with
  | .ok (.float y) => some y
  | _ => none

theorem readString_of_rereadFloat? {x y : Binary64} (h : rereadFloat? x = some y) :
    readString (floatText x) = .ok (.float y) := by
  unfold rereadFloat? at h
  split at h
  · next heq => rw [heq, Option.some.inj h]
  · exact absurd h (by simp)

/-- **A number whose text reads as the number** is read back wherever it is printed. -/
theorem rereads_float {x : Binary64} (h : rereadFloat? x = some x) :
    (Value.float x).Rereads := by
  obtain ⟨rest, hvalue, hrest⟩ := value_of_readString (readString_of_rereadFloat? h)
  have htext : scalarText (.float x) = floatText x := rfl
  have hnumeral := isNumeral_floatText x
  rw [← htext] at hvalue hnumeral
  cases hcs : (scalarText (.float x)).toList with
  | nil =>
      rw [hcs] at hvalue
      exact absurd hvalue (by simp [value, depthLimit, valueWith, skipSpace, fail])
  | cons c cs =>
      rw [hcs] at hvalue hnumeral
      have hspace : ∀ s ∈ symbols (c :: cs), isSpace s = false := by
        intro s hs
        obtain ⟨d, hd, rfl⟩ := List.mem_map.mp hs
        exact isSpace_of_isNumeral (hnumeral d hd)
      have hfirst := hnumeral c List.mem_cons_self
      refine ⟨?_, fun part after hafter => ?_⟩
      · rw [hcs]
        refine ⟨c, symbols cs, rfl, isSpace_of_isNumeral hfirst, ?_, ?_⟩
        · rintro rfl
          exact absurd hfirst (by decide)
        · rintro rfl
          exact absurd hfirst (by decide)
      · rw [hcs]
        rcases number_of_valueWith (hspace _ List.mem_cons_self) hvalue with
          ⟨hsign, hnumber⟩ | ⟨d, hd, hdigit, hnumber⟩
        · obtain rfl : c = '-' := by simpa using hsign
          exact number_append hnumber (fun s hs => hspace s (List.mem_cons_of_mem _ hs)) hrest
            hafter
        · obtain rfl : c = d := by simpa using hd
          rw [symbols_cons, List.cons_append, valueWith_of_isDigit part hdigit]
          exact number_append hnumber hspace hrest hafter

example : rereadFloat? (.ofQuotient true 3 2) = some (.ofQuotient true 3 2) := by decide +kernel

/-- The number nearest to `123456789.123456789` is printed as `123456789.12345679`, and that
text is read as the next number. -/
example : rereadFloat? ⟨0x419D6F34547E6B75⟩ = some ⟨0x419D6F34547E6B76⟩ := by decide +kernel

end Expectation.Json
