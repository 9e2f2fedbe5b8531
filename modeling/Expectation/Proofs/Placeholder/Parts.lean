import Expectation.Proofs.Placeholder.Closing

/-!
# The parts of a raw text

A scan cuts a raw text into parts, characters and placeholders, and keeps of a placeholder what
stands between its braces, without the blanks at the ends.  `parts` keeps the blanks too, and so
the parts of a raw text tell what it was.

Where a placeholder ends depends on the text up to there, and on nothing behind it.

## Main results

* `inner?_of_append`: a placeholder does not depend on what follows it.
* `scan_eq_map_parts`: a scan finds the parts of a raw text.
* `flatMap_source_parts`: the parts of a raw text spell it.
-/

namespace Expectation.Placeholder

open Text (Unpaired)

/-! ## Placeholders -/

/-- A placeholder needs two opening braces. -/
theorem inner?_eq_none {c : Char} {rest : List Char}
    (h : c = '\x7B' → rest.head? ≠ some '\x7B') : inner? (c :: rest) = none := by
  unfold inner?
  split
  · next heq =>
      obtain ⟨rfl, rfl⟩ := List.cons.inj heq
      exact absurd rfl (h rfl)
  · rfl

/-- Two braces, a text that is not blank up to its closing braces, and anything behind them:
that is a placeholder. -/
theorem inner?_braces {inner rest : List Char} (hblank : Text.trim inner ≠ [])
    (hclose : beforeClose false (inner ++ '\x7D' :: '\x7D' :: rest) = some inner) :
    inner? ('\x7B' :: '\x7B' :: inner ++ '\x7D' :: '\x7D' :: rest) = some inner := by
  have hsome : (Text.trim inner).isEmpty = false := by simpa using hblank
  simp [inner?, hclose, hsome]

/-- Between the braces of a placeholder stands what is found there. -/
theorem eq_of_inner? {cs inner : List Char} (h : inner? cs = some inner) :
    ∃ rest, cs = '\x7B' :: '\x7B' :: inner ++ '\x7D' :: '\x7D' :: rest := by
  unfold inner? at h
  split at h
  · split at h
    · next hclose =>
      split at h
      · contradiction
      · obtain rfl := Option.some.inj h
        obtain ⟨rest, rfl⟩ := eq_of_beforeClose hclose
        exact ⟨rest, rfl⟩
    · contradiction
  · contradiction

/-- A placeholder is not blank, and it reaches to its closing braces. -/
theorem of_inner?_braces {inner cs : List Char}
    (h : inner? ('\x7B' :: '\x7B' :: cs) = some inner) :
    Text.trim inner ≠ [] ∧ beforeClose false cs = some inner := by
  unfold inner? at h
  split at h
  · next heq =>
    cases heq
    split at h
    · next hclose =>
      split at h
      · contradiction
      · next hblank =>
        obtain rfl := Option.some.inj h
        exact ⟨by simpa using hblank, hclose⟩
    · contradiction
  · contradiction

/-- **A placeholder does not depend on what follows it.** -/
theorem inner?_of_append {front rest inner : List Char}
    (h : inner? (front ++ rest) = some inner) (hlength : inner.length + 4 ≤ front.length)
    (rest' : List Char) : inner? (front ++ rest') = some inner := by
  obtain ⟨behind, hbehind⟩ := eq_of_inner? h
  obtain ⟨tail, rfl⟩ : ∃ tail, front = '\x7B' :: '\x7B' :: inner ++ '\x7D' :: '\x7D' :: tail := by
    have hfits : ('\x7B' :: '\x7B' :: inner ++ ['\x7D', '\x7D']).length ≤ front.length := by
      simp only [List.length_append, List.length_cons, List.length_nil]
      omega
    have hbraces : '\x7B' :: '\x7B' :: inner ++ ['\x7D', '\x7D'] <+: front := by
      refine List.prefix_of_prefix_length_le ⟨behind, ?_⟩ ⟨rest, rfl⟩ hfits
      rw [hbehind]
      simp
    obtain ⟨tail, htail⟩ := hbraces
    exact ⟨tail, by rw [← htail]; simp⟩
  have hshape : ∀ more : List Char,
      '\x7B' :: '\x7B' :: inner ++ '\x7D' :: '\x7D' :: tail ++ more =
        '\x7B' :: '\x7B' :: inner ++ '\x7D' :: '\x7D' :: (tail ++ more) := fun more => by simp
  rw [hshape] at h ⊢
  obtain ⟨hblank, hclose⟩ := of_inner?_braces h
  exact inner?_braces hblank (beforeClose_of_append hclose _)

/-! ## Parts -/

/-- A part of a raw text as it is written: a character, or a placeholder with all that
stands between its braces. -/
inductive Part where
  | char (c : Char)
  | placeholder (inner : List Char) (quoted : Bool)
  deriving DecidableEq, Repr

namespace Part

/-- The text of a part. -/
def source : Part → List Char
  | .char c => [c]
  | .placeholder inner _ => '\x7B' :: '\x7B' :: inner ++ ['\x7D', '\x7D']

/-- A part without blanks at the ends of what stands between its braces. -/
def trimmed : Part → Part
  | .char c => .char c
  | .placeholder inner quoted => .placeholder (Text.trim inner) quoted

/-- What a scan records of a part. -/
def segment : Part → Segment
  | .char c => .char c
  | .placeholder inner quoted => .placeholder (Text.trim inner) quoted

/-- The expression that is recorded for a placeholder. -/
def expression? : Part → Option String
  | .char _ => none
  | .placeholder inner _ => some (String.ofList (Text.trim inner))

end Part

/-- The parts of a raw text.  The first argument counts the characters of a placeholder
that are still to be passed over. -/
def parts : Nat → ScanContext → List Char → List Part
  | _, _, [] => []
  | left + 1, context, _ :: cs => parts left context cs
  | 0, context, c :: cs =>
    match (if context = .escaped then none else inner? (c :: cs)) with
    | some inner => .placeholder inner (context = .value) :: parts (inner.length + 3) context cs
    | none => .char c :: parts 0 (context.next c) cs

/-- A scan finds the parts of a raw text. -/
theorem scan_eq_map_parts (left : Nat) (context : ScanContext) (raw : List Char) :
    scan left context raw = (parts left context raw).map Part.segment := by
  induction raw generalizing left context with
  | nil => cases left <;> rfl
  | cons c cs ih =>
      cases left with
      | succ left => exact ih left context
      | zero =>
          rw [scan, parts]
          cases (if context = .escaped then none else inner? (c :: cs)) with
          | none => exact congrArg (_ :: ·) (ih 0 _)
          | some inner => exact congrArg (_ :: ·) (ih _ _)

/-- Characters without a pair of opening braces are passed one by one. -/
theorem parts_chars (context : ScanContext) {cs : List Char} (hpair : Unpaired '\x7B' cs)
    (rest : List Char) :
    parts 0 context (cs ++ rest) =
      cs.map .char ++ parts 0 (cs.foldl ScanContext.next context) rest := by
  induction cs generalizing context with
  | nil => rfl
  | cons c cs ih =>
      have hinner : inner? (c :: (cs ++ rest)) = none := by
        refine inner?_eq_none ?_
        rintro rfl
        exact hpair.head?_append_ne rest
      rw [List.cons_append, parts, hinner, ite_self, ih _ hpair.tail]
      rfl

/-- The characters of a placeholder are passed over. -/
theorem parts_skip (context : ScanContext) (cs rest : List Char) :
    parts cs.length context (cs ++ rest) = parts 0 context rest := by
  induction cs with
  | nil => rfl
  | cons c cs ih => exact ih

/-- A placeholder is a part, and the next part begins behind it. -/
theorem parts_braces {context : ScanContext} (hcontext : context ≠ .escaped)
    {inner rest : List Char} (hblank : Text.trim inner ≠ [])
    (hclose : beforeClose false (inner ++ '\x7D' :: '\x7D' :: rest) = some inner) :
    parts 0 context ('\x7B' :: '\x7B' :: inner ++ '\x7D' :: '\x7D' :: rest) =
      .placeholder inner (context = .value) :: parts 0 context rest := by
  have hinner : inner? ('\x7B' :: ('\x7B' :: inner ++ '\x7D' :: '\x7D' :: rest)) = some inner :=
    inner?_braces hblank hclose
  have hpassed : parts (inner.length + 3) context ('\x7B' :: inner ++ '\x7D' :: '\x7D' :: rest) =
      parts 0 context rest := by
    have hskip := parts_skip context ('\x7B' :: inner ++ ['\x7D', '\x7D']) rest
    simpa using hskip
  rw [List.cons_append, parts, if_neg hcontext, hinner]
  simp only [hpassed]

/-! ## What the parts spell -/

/-- The parts behind so many characters spell what stands there. -/
theorem flatMap_source_parts_drop (left : Nat) (context : ScanContext) (raw : List Char) :
    (parts left context raw).flatMap Part.source = raw.drop left := by
  induction raw generalizing left context with
  | nil => cases left <;> rfl
  | cons c cs ih =>
      cases left with
      | succ left => exact ih left context
      | zero =>
          rw [parts]
          split
          · next inner hinner =>
            split at hinner
            · contradiction
            · obtain ⟨rest, hrest⟩ := eq_of_inner? hinner
              have hbehind : cs.drop (inner.length + 3) = rest := by
                rw [(List.cons.inj hrest).2]
                simp
              rw [List.flatMap_cons, ih, hbehind, hrest]
              simp [Part.source]
          · rw [List.flatMap_cons, ih]
            rfl

/-- **The parts of a raw text spell it.** -/
theorem flatMap_source_parts (context : ScanContext) (raw : List Char) :
    (parts 0 context raw).flatMap Part.source = raw :=
  flatMap_source_parts_drop 0 context raw

end Expectation.Placeholder
