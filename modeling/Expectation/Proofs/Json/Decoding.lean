import Expectation.Proofs.Json.Unspelling
import Expectation.Proofs.Placeholder.Restoring

/-!
# Placeholders in strings that are decoded

A placeholder inside a JSON string is found in the raw text of the string, and its sentinel is
put back in what the string is decoded to.  In between the text around it changes, but the
placeholder does not if it holds no quotation mark and no backslash: then it stands in one
string, and stands for itself there.

## Main results

* `exists_decodes`: the parts of a raw string, and the segments of what it is decoded to.
-/

namespace Expectation.Json

open Placeholder

/-- What stands between the braces of a placeholder and is decoded to itself, with no blanks
to trim. -/
structure Verbatim (inner : List Char) : Prop where
  trimmed : Text.trim inner = inner
  quote : '"' ∉ inner
  back : '\\' ∉ inner

instance : DecidablePred Verbatim := fun inner =>
  decidable_of_iff (Text.trim inner = inner ∧ '"' ∉ inner ∧ '\\' ∉ inner)
    ⟨fun ⟨htrim, hquote, hback⟩ => ⟨htrim, hquote, hback⟩, fun h => ⟨h.trimmed, h.quote, h.back⟩⟩

/-- Segments of a decoded string, with the segments of the raw text they come from: every
character with its spelling, and every placeholder as it is. -/
inductive Decodes : List Segment → List Segment → Prop
  | nil : Decodes [] []
  | char {c : Char} {spelling : List Char} {decoded raw : List Segment} (hc : Spelled c spelling)
      (h : Decodes decoded raw) : Decodes (.char c :: decoded) (spelling.map .char ++ raw)
  | placeholder {e : List Char} {decoded raw : List Segment}
      (hfound : ∀ rest, inner? ('\x7B' :: '\x7B' :: e ++ '\x7D' :: '\x7D' :: rest) = some e)
      (htrim : Text.trim e = e) (h : Decodes decoded raw) :
      Decodes (.placeholder e false :: decoded) (.placeholder e false :: raw)

namespace Decodes

variable {decoded raw : List Segment}

theorem expressionsOf_eq (h : Decodes decoded raw) : expressionsOf decoded = expressionsOf raw := by
  induction h with
  | nil => rfl
  | @char c spelling decoded raw hc h ih =>
      rw [expressionsOf_chars]
      exact ih
  | placeholder hfound htrim h ih => exact congrArg (_ :: ·) ih

theorem bare (h : Decodes decoded raw) {e : List Char} {quoted : Bool}
    (hmem : .placeholder e quoted ∈ decoded) : quoted = false := by
  induction h with
  | nil => exact absurd hmem List.not_mem_nil
  | char hc h ih => exact ih ((List.mem_cons.mp hmem).resolve_left (by simp))
  | placeholder hfound htrim h ih =>
      rcases List.mem_cons.mp hmem with heq | hmem
      · exact (Segment.placeholder.inj heq).2
      · exact ih hmem

end Decodes

theorem SpelledAll.append {cs ds body body' : List Char} (h : SpelledAll cs body)
    (h' : SpelledAll ds body') : SpelledAll (cs ++ ds) (body ++ body') := by
  induction h with
  | nil => exact h'
  | cons hc h ih =>
      rw [List.append_assoc]
      exact .cons hc ih

theorem spelledAll_self {cs : List Char}
    (h : ∀ c ∈ cs, c ≠ '"' ∧ c ≠ '\\' ∧ 0x20 ≤ c.toNat) : SpelledAll cs cs := by
  induction cs with
  | nil => exact .nil
  | cons c cs ih =>
      obtain ⟨hquote, hback, hcontrol⟩ := h c List.mem_cons_self
      exact .cons (.plain hquote hback hcontrol) (ih fun d hd => h d (List.mem_cons_of_mem c hd))

/-- The characters of a sentinel stand for themselves. -/
theorem spelledAll_sentinel (i : Nat) : SpelledAll (sentinel i) (sentinel i) := by
  have hfront : ∀ c ∈ sentinelFront, c ≠ '"' ∧ c ≠ '\\' ∧ 0x20 ≤ c.toNat :=
    List.all_iff_forall_prop.mp (by decide)
  refine spelledAll_self fun c hc => ?_
  rcases of_mem_sentinel hc with hmem | hdigit
  · exact hfront c hmem
  · refine ⟨?_, ?_, Nat.le_trans (by decide) (Char.isDigit_iff_toNat.mp hdigit).1⟩
    · rintro rfl
      exact absurd hdigit (by decide)
    · rintro rfl
      exact absurd hdigit (by decide)

theorem Decodes.spelledAll {decoded raw : List Segment} (h : Decodes decoded raw) (i : Nat) :
    SpelledAll (spell i decoded) (spell i raw) := by
  induction h generalizing i with
  | nil => exact .nil
  | char hc h ih =>
      rw [spell_chars]
      exact .cons hc (ih i)
  | placeholder hfound htrim h ih => exact (spelledAll_sentinel i).append (ih (i + 1))

/-! ## Raw strings -/

/-- Characters in front of a raw string that are neither a quotation mark nor a backslash are
decoded to themselves. -/
theorem SpelledAll.of_front {x body behind front rest : List Char} (h : SpelledAll x body)
    (hquote : '"' ∉ front) (hback : '\\' ∉ front)
    (heq : body ++ '"' :: behind = front ++ rest) :
    ∃ y tail, x = front ++ y ∧ body = front ++ tail ∧ rest = tail ++ '"' :: behind ∧
      SpelledAll y tail := by
  induction front generalizing x body with
  | nil => exact ⟨x, body, rfl, rfl, heq.symm, h⟩
  | cons d front ih =>
      obtain ⟨hd, hquote'⟩ := not_or.mp (mt List.mem_cons.mpr hquote)
      obtain ⟨hd', hback'⟩ := not_or.mp (mt List.mem_cons.mpr hback)
      cases h with
      | nil => exact absurd (List.cons.inj heq).1 hd
      | cons hc h =>
          cases hc with
          | plain =>
              obtain ⟨rfl, htail⟩ := List.cons.inj heq
              obtain ⟨y, tail, rfl, rfl, hrest, hspelled⟩ := ih h hquote' hback' htail
              exact ⟨y, tail, rfl, rfl, hrest, hspelled⟩
          | short | number | pair => exact absurd (List.cons.inj heq).1 hd'

/-- A hexadecimal digit means nothing to a scan. -/
theorem IsHexDigit.ne {c : Char} {n : Nat} (h : IsHexDigit c n) :
    c ≠ '\x7B' ∧ c ≠ '"' ∧ c ≠ '\\' := by
  have hall : ∀ i < 16, [hexDigit i, (hexDigit i).toUpper].all
      (fun d => d ≠ '\x7B' ∧ d ≠ '"' ∧ d ≠ '\\') = true := by
    decide
  obtain ⟨hlt, hc⟩ := h
  exact List.all_iff_forall_prop.mp (hall n hlt) c (by simpa using hc)

theorem FourDigits.foldl_next {n : Nat} {ds : List Char} (h : FourDigits n ds) :
    '\x7B' ∉ ds ∧ ds.foldl ScanContext.next .string = .string := by
  obtain ⟨ha, hb, hc, hd⟩ := h
  have hnext : ∀ {c n}, IsHexDigit c n → ScanContext.string.next c = .string := by
    intro c n hc
    simp [ScanContext.next, hc.ne]
  refine ⟨?_, ?_⟩
  · simp [ha.ne.1.symm, hb.ne.1.symm, hc.ne.1.symm, hd.ne.1.symm]
  · simp [hnext ha, hnext hb, hnext hc, hnext hd]

/-- A spelling in which no placeholder begins is passed character by character. -/
theorem parts_spelled {c : Char} {spelling : List Char} (h : Spelled c spelling)
    {rest : List Char} (hinner : inner? (spelling ++ rest) = none) :
    parts 0 .string (spelling ++ rest) = spelling.map .char ++ parts 0 .string rest := by
  have hescape : '\x7B' ∉ spelling → spelling.foldl ScanContext.next .string = .string →
      parts 0 .string (spelling ++ rest) = spelling.map .char ++ parts 0 .string rest := by
    intro hbrace hnext
    rw [parts_chars .string (Text.unpaired_of_not_mem hbrace), hnext]
  cases h with
  | plain hquote hback hcontrol =>
      have hnext : ScanContext.string.next c = .string := by simp [ScanContext.next, hquote, hback]
      rw [List.singleton_append] at hinner ⊢
      rw [parts, hinner, hnext]
      rfl
  | @short letter c hmem =>
      have hall : ∀ p ∈ ('/', '/') :: shortEscapes, '\x7B' ∉ ['\\', p.1] := by decide
      exact hescape (hall _ hmem) rfl
  | number hds =>
      obtain ⟨hbrace, hnext⟩ := hds.foldl_next
      exact hescape (by simpa using hbrace) hnext
  | @pair _ high low hplane hhigh hlow =>
      obtain ⟨hbrace, hnext⟩ := hhigh.foldl_next
      obtain ⟨hbrace', hnext'⟩ := hlow.foldl_next
      have hfront : ('\\' :: 'u' :: high).foldl ScanContext.next .string = .string := hnext
      refine hescape (by simp [hbrace, hbrace']) ?_
      rw [List.foldl_append, hfront]
      exact hnext'

/-- **A raw string is decoded part by part**, if its placeholders stand for themselves. -/
theorem exists_decodes {x body : List Char} (h : SpelledAll x body) {behind : List Char}
    (hverbatim : ∀ inner quoted,
      .placeholder inner quoted ∈ parts 0 .string (body ++ '"' :: behind) → Verbatim inner) :
    ∃ decoded ps, parts 0 .string (body ++ '"' :: behind) =
        ps ++ .char '"' :: parts 0 .value behind ∧
      Decodes decoded (ps.map Part.segment) ∧ written decoded = x := by
  induction hlength : body.length using Nat.strongRecOn generalizing x body with
  | ind n ih =>
      subst hlength
      cases hinner : inner? (body ++ '"' :: behind) with
      | none =>
          cases h with
          | nil => exact ⟨[], [], rfl, .nil, rfl⟩
          | @cons c x spelling body hc h =>
              rw [List.append_assoc] at hinner hverbatim ⊢
              have hparts := parts_spelled hc hinner
              rw [hparts] at hverbatim ⊢
              have hshorter : body.length < (spelling ++ body).length := by
                have hpositive := hc.length_pos
                rw [List.length_append]
                omega
              obtain ⟨decoded, ps, hps, hdecodes, rfl⟩ := ih _ hshorter h
                (fun inner quoted hmem => hverbatim inner quoted (List.mem_append_right _ hmem)) rfl
              refine ⟨.char c :: decoded, spelling.map .char ++ ps, ?_, ?_, rfl⟩
              · rw [hps, List.append_assoc]
              · rw [List.map_append, List.map_map]
                exact .char hc hdecodes
      | some inner =>
          obtain ⟨rest, hrest⟩ := eq_of_inner? hinner
          rw [hrest] at hinner
          obtain ⟨hblank, hclose⟩ := of_inner?_braces hinner
          have hparts := parts_braces (by decide : ScanContext.string ≠ .escaped) hblank hclose
          rw [hrest, hparts] at hverbatim
          obtain ⟨htrim, hquote, hback⟩ := hverbatim inner _ List.mem_cons_self
          have hbody : body ++ '"' :: behind =
              ('\x7B' :: '\x7B' :: inner ++ ['\x7D', '\x7D']) ++ rest := by
            rw [hrest]
            simp
          obtain ⟨y, tail, rfl, rfl, rfl, htail⟩ :=
            h.of_front (by simpa using hquote) (by simpa using hback) hbody
          obtain ⟨decoded, ps, hps, hdecodes, rfl⟩ := ih tail.length (by simp; omega) htail
            (fun inner quoted hmem => hverbatim inner quoted (List.mem_cons_of_mem _ hmem)) rfl
          refine ⟨.placeholder inner false :: decoded, .placeholder inner false :: ps, ?_, ?_, ?_⟩
          · rw [hrest, hparts, hps]
            rfl
          · rw [List.map_cons, Part.segment, htrim]
            have hfound : ∀ after,
                inner? ('\x7B' :: '\x7B' :: inner ++ '\x7D' :: '\x7D' :: after) = some inner :=
              fun after => inner?_braces hblank (beforeClose_of_append hclose after)
            exact .placeholder hfound htrim hdecodes
          · simp [written]

end Expectation.Json
