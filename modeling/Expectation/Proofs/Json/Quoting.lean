import Expectation.Json.Expected
import Expectation.Proofs.Placeholder.Restoring

/-!
# Placeholders with and without quotation marks

In a JSON document a placeholder that is a whole value may stand in quotation marks or
without them.  Both spellings mean the same because the sentinel of a placeholder outside a
string is quoted, and a quotation mark in front of a placeholder opens a string.

That only holds where the scan takes the placeholder for one.  What it makes of a text can
depend on anything further on, since it looks ahead for closing braces; so the two documents
have to be scanned in the same way up to the placeholder.  They are if both scans come to a
halt in front of it: whatever either of them finds before that place lies wholly in the text
that the documents share.

## Main results

* `scan_eq_append`: a scan that has come some way goes on from there.
* `found_eq_of_stops`: what is found up to a halt does not depend on what follows.
* `readExpected_quoted`: a placeholder that is a whole value may be quoted.
-/

namespace Expectation.Placeholder

/-! ## Scans on their way -/

/-- A scan that has come some way: the segments it has found, how many characters of a
placeholder are still to be passed over, and the context. -/
structure Progress where
  found : List Segment
  left : Nat
  context : ScanContext
  deriving DecidableEq, Repr

/-- The progress with a segment found in front. -/
def Progress.cons (segment : Segment) (p : Progress) : Progress :=
  { p with found := segment :: p.found }

/-- How far a scan has come after so many characters. -/
def progress : Nat → Nat → ScanContext → List Char → Progress
  | n + 1, left + 1, context, _ :: cs => progress n left context cs
  | n + 1, 0, context, c :: cs =>
    match (if context = .escaped then none else inner? (c :: cs)) with
    | some inner =>
      (progress n (inner.length + 3) context cs).cons
        (.placeholder (Text.trim inner) (context = .value))
    | none => (progress n 0 (context.next c) cs).cons (.char c)
  | _, left, context, _ => ⟨[], left, context⟩

/-- **A scan that has come some way goes on from there.** -/
theorem scan_eq_append (n left : Nat) (context : ScanContext) (cs : List Char) :
    scan left context cs =
      (progress n left context cs).found ++
        scan (progress n left context cs).left (progress n left context cs).context
          (cs.drop n) := by
  induction n generalizing left context cs with
  | zero => cases left <;> rfl
  | succ n ih =>
      cases cs with
      | nil => cases left <;> rfl
      | cons c cs =>
          cases left with
          | succ left => exact ih left context cs
          | zero =>
              rw [scan, progress]
              cases (if context = .escaped then none else inner? (c :: cs)) with
              | none => exact congrArg (_ :: ·) (ih 0 _ cs)
              | some inner => exact congrArg (_ :: ·) (ih _ context cs)

/-- The scan of a JSON document comes to a halt behind a text: it is in the middle of no
placeholder and of no escape, and outside strings. -/
def StopsBehind (front rest : List Char) : Prop :=
  (progress front.length 0 .value (front ++ rest)).left = 0 ∧
    (progress front.length 0 .value (front ++ rest)).context = .value

instance (front rest : List Char) : Decidable (StopsBehind front rest) :=
  inferInstanceAs (Decidable (_ ∧ _))

theorem scan_of_stopsBehind {front rest : List Char} (h : StopsBehind front rest) :
    scan 0 .value (front ++ rest) =
      (progress front.length 0 .value (front ++ rest)).found ++ scan 0 .value rest := by
  have hscan := scan_eq_append front.length 0 .value (front ++ rest)
  rwa [h.1, h.2, List.drop_left] at hscan

/-! ## What is found up to a halt -/

/-- A scan cannot pass more characters than it comes along. -/
theorem le_of_progress_left {n left : Nat} {context : ScanContext} {cs : List Char}
    (h : (progress n left context cs).left = 0) : left ≤ n := by
  induction n generalizing left cs with
  | zero =>
      cases left with
      | zero => exact Nat.le_refl 0
      | succ left => exact absurd h (Nat.succ_ne_zero left)
  | succ n ih =>
      cases left with
      | zero => exact Nat.zero_le _
      | succ left =>
          cases cs with
          | nil => exact absurd h (Nat.succ_ne_zero left)
          | cons c cs => exact Nat.succ_le_succ (ih h)

/-- A placeholder that a scan finds before it comes to a halt is found in front of any other
text as well. -/
theorem found?_of_append {c : Char} {front rest rest' inner : List Char} {context : ScanContext}
    (hfound : (if context = .escaped then none else inner? (c :: (front ++ rest))) = some inner)
    (hleft : (progress front.length (inner.length + 3) context (front ++ rest)).left = 0) :
    (if context = .escaped then none else inner? (c :: (front ++ rest'))) = some inner := by
  have hlength := le_of_progress_left hleft
  split at hfound
  · contradiction
  · next hcontext =>
    rw [if_neg hcontext]
    have hinner : inner? (c :: front ++ rest) = some inner := hfound
    exact inner?_of_append hinner (by rw [List.length_cons]; omega) rest'

/-- **What is found up to a halt** does not depend on what follows, if both scans come to
a halt there. -/
theorem found_eq_of_stops {front rest rest' : List Char} {left : Nat} {context : ScanContext}
    (h : (progress front.length left context (front ++ rest)).left = 0)
    (h' : (progress front.length left context (front ++ rest')).left = 0) :
    (progress front.length left context (front ++ rest)).found =
      (progress front.length left context (front ++ rest')).found := by
  induction front generalizing left context with
  | nil => cases left <;> cases rest <;> cases rest' <;> rfl
  | cons c front ih =>
      cases left with
      | succ left => exact ih h h'
      | zero =>
          rw [List.length_cons, List.cons_append, progress] at h
          rw [List.length_cons, List.cons_append, List.cons_append, progress, progress]
          rw [List.length_cons, List.cons_append, progress] at h'
          -- each scan sees the placeholders that the other one sees
          cases hx : (if context = .escaped then none else inner? (c :: (front ++ rest))) with
          | some inner =>
              rw [hx] at h
              rw [found?_of_append hx h] at h' ⊢
              exact congrArg (_ :: ·) (ih h h')
          | none =>
              cases hy : (if context = .escaped then none else inner? (c :: (front ++ rest'))) with
              | some inner =>
                  rw [hy] at h'
                  exact absurd (hx.symm.trans (found?_of_append hy h')) (by simp)
              | none =>
                  rw [hx] at h
                  rw [hy] at h'
                  exact congrArg (_ :: ·) (ih h h')

/-! ## Values -/

/-- Segments that differ in who puts the quotation marks around a sentinel spell the same
text. -/
theorem spell_quoted (i : Nat) (found rest : List Segment) (e : List Char) :
    spell i (found ++ .placeholder e true :: rest) =
      spell i (found ++ .char '"' :: .placeholder e false :: .char '"' :: rest) := by
  induction found generalizing i with
  | nil => simp [spell]
  | cons segment found ih =>
      cases segment with
      | char c => exact congrArg (c :: ·) (ih i)
      | placeholder e' quoted => exact congrArg (_ ++ ·) (ih (i + 1))

/-- They carry the same expressions. -/
theorem expressionsOf_quoted (found rest : List Segment) (e : List Char) :
    expressionsOf (found ++ .placeholder e true :: rest) =
      expressionsOf (found ++ .char '"' :: .placeholder e false :: .char '"' :: rest) := by
  simp [expressionsOf]

end Expectation.Placeholder

namespace Expectation.Json

open Placeholder

/-- **A placeholder that is a whole value may be quoted.**  Wherever the scans of both
documents come to a halt in front of it, outside strings, they are the same document. -/
theorem readExpected_quoted {u e v : String} (hblank : Text.trim e.toList ≠ [])
    (hclose : beforeClose false (e.toList ++ '\x7D' :: '\x7D' :: v.toList) = some e.toList)
    (hbare : StopsBehind u.toList ("\x7B\x7B" ++ e ++ "\x7D\x7D" ++ v).toList)
    (hquoted : StopsBehind u.toList ("\"\x7B\x7B" ++ e ++ "\x7D\x7D\"" ++ v).toList) :
    Substitution.ofText .value (u ++ ("\x7B\x7B" ++ e ++ "\x7D\x7D" ++ v)) =
        Substitution.ofText .value (u ++ ("\"\x7B\x7B" ++ e ++ "\x7D\x7D\"" ++ v)) ∧
      readExpected (u ++ ("\x7B\x7B" ++ e ++ "\x7D\x7D" ++ v)) =
        readExpected (u ++ ("\"\x7B\x7B" ++ e ++ "\x7D\x7D\"" ++ v)) := by
  have hbareText : ("\x7B\x7B" ++ e ++ "\x7D\x7D" ++ v).toList =
      '\x7B' :: '\x7B' :: e.toList ++ '\x7D' :: '\x7D' :: v.toList := by
    simp [String.toList_append]
  have hquotedText : ("\"\x7B\x7B" ++ e ++ "\x7D\x7D\"" ++ v).toList =
      '"' :: ('\x7B' :: '\x7B' :: e.toList ++ '\x7D' :: '\x7D' :: '"' :: v.toList) := by
    simp [String.toList_append]
  obtain ⟨found, hfound⟩ : ∃ found,
      (progress u.toList.length 0 .value
        (u.toList ++ ("\x7B\x7B" ++ e ++ "\x7D\x7D" ++ v).toList)).found = found := ⟨_, rfl⟩
  have hfound' := (found_eq_of_stops hbare.1 hquoted.1).symm.trans hfound
  have hbareScan : scan 0 .value (u ++ ("\x7B\x7B" ++ e ++ "\x7D\x7D" ++ v)).toList =
      found ++ .placeholder (Text.trim e.toList) true :: scan 0 .value v.toList := by
    have hvalue := scan_braces (by decide : ScanContext.value ≠ .escaped) hblank hclose
    rw [String.toList_append, scan_of_stopsBehind hbare, hfound, hbareText, hvalue]
    rfl
  have hquotedScan : scan 0 .value (u ++ ("\"\x7B\x7B" ++ e ++ "\x7D\x7D\"" ++ v)).toList =
      found ++ .char '"' :: .placeholder (Text.trim e.toList) false :: .char '"' ::
        scan 0 .value v.toList := by
    have hinside := scan_braces (by decide : ScanContext.string ≠ .escaped) hblank
      (beforeClose_of_append hclose ('"' :: v.toList))
    have hmark : ∀ (context : ScanContext) (cs : List Char),
        scan 0 context ('"' :: cs) = .char '"' :: scan 0 (context.next '"') cs :=
      fun context cs => scan_chars context
        (Text.unpaired_of_not_mem (by decide : '\x7B' ∉ ['"'])) cs
    have hnext : ScanContext.value.next '"' = .string := rfl
    rw [String.toList_append, scan_of_stopsBehind hquoted, hfound', hquotedText, hmark, hnext,
      hinside, hmark]
    rfl
  have hsame : Substitution.ofText .value (u ++ ("\x7B\x7B" ++ e ++ "\x7D\x7D" ++ v)) =
      Substitution.ofText .value (u ++ ("\"\x7B\x7B" ++ e ++ "\x7D\x7D\"" ++ v)) := by
    rw [Substitution.ofText, Substitution.ofText, hbareScan, hquotedScan, spell_quoted,
      expressionsOf_quoted]
  refine ⟨hsame, ?_⟩
  rw [readExpected, readExpected, hsame]

/-- A pattern with closing braces, behind a string with an escaped mark and a placeholder. -/
theorem readExpected_quoted_pattern :
    Text.trim " regex \x60\x7D\x7D\x60 ".toList ≠ [] ∧
      beforeClose false (" regex \x60\x7D\x7D\x60 ".toList ++ '\x7D' :: '\x7D' :: "]".toList) =
        some " regex \x60\x7D\x7D\x60 ".toList ∧
      StopsBehind "[\"\\\"\x7B\x7Bb\x7D\x7D\", ".toList
        ("\x7B\x7B" ++ " regex \x60\x7D\x7D\x60 " ++ "\x7D\x7D" ++ "]").toList ∧
      StopsBehind "[\"\\\"\x7B\x7Bb\x7D\x7D\", ".toList
        ("\"\x7B\x7B" ++ " regex \x60\x7D\x7D\x60 " ++ "\x7D\x7D\"" ++ "]").toList ∧
      readExpected ("[\"\\\"\x7B\x7Bb\x7D\x7D\", " ++
          ("\x7B\x7B" ++ " regex \x60\x7D\x7D\x60 " ++ "\x7D\x7D" ++ "]")) =
        readExpected ("[\"\\\"\x7B\x7Bb\x7D\x7D\", " ++
          ("\"\x7B\x7B" ++ " regex \x60\x7D\x7D\x60 " ++ "\x7D\x7D\"" ++ "]")) := by
  have hblank : Text.trim " regex \x60\x7D\x7D\x60 ".toList ≠ [] := by decide +kernel
  have hclose : beforeClose false
      (" regex \x60\x7D\x7D\x60 ".toList ++ '\x7D' :: '\x7D' :: "]".toList) =
        some " regex \x60\x7D\x7D\x60 ".toList := by
    decide +kernel
  have hbare : StopsBehind "[\"\\\"\x7B\x7Bb\x7D\x7D\", ".toList
      ("\x7B\x7B" ++ " regex \x60\x7D\x7D\x60 " ++ "\x7D\x7D" ++ "]").toList := by
    decide +kernel
  have hquoted : StopsBehind "[\"\\\"\x7B\x7Bb\x7D\x7D\", ".toList
      ("\"\x7B\x7B" ++ " regex \x60\x7D\x7D\x60 " ++ "\x7D\x7D\"" ++ "]").toList := by
    decide +kernel
  exact ⟨hblank, hclose, hbare, hquoted, (readExpected_quoted hblank hclose hbare hquoted).2⟩

end Expectation.Json
