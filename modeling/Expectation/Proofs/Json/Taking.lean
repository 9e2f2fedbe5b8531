import Expectation.Proofs.Json.Unspelling

/-!
# What the readers take

The readers of arrays and objects go from one part to the next, and when they succeed, their
input can be taken apart in the same way: brackets, commas, keys, colons and parts.  Each lemma
says of one reader which inputs it takes, and what of them it leaves.

The readers of numbers look at one symbol to find out what is next.  Their lemmas say what they
do where it is none of those that they look for.

## Main results

* `nextItem_eq_ok_iff`, `nextKey_eq_ok_iff`: the input up to the next part.
* `items_succ_eq_ok_iff`, `members_succ_eq_ok_iff`: the input of the parts.
* `read_eq_ok_iff`: the input of a whole text.
-/

namespace Expectation.Json

open Text (Symbol)

/-! ## Numbers -/

/-- The sign of an exponent, and what follows it. -/
def exponentSign : Input → Bool × Input
  | .char '+' :: cs => (false, cs)
  | .char '-' :: cs => (true, cs)
  | cs => (false, cs)

/-- The number whose exponent has the given sign. -/
def unsignedExponent (negative down : Bool) (n : Nat) (scale : Int) : Reader Value
  | [] => fail .endInValue []
  | s :: rest =>
    if (decimalDigit? s).isNone then .error ⟨.invalidNumber, s :: rest, 1⟩
    else
      match exponentDigits 0 (s :: rest) with
      | .ok (e, rest) => floatValue negative n (if down then scale - e else scale + e) rest
      | .error rest =>
        if n != 0 && !down then fail .numberOutOfRange rest
        else .ok (withSign negative (.ofNat 0), (digits rest).2)

theorem exponentPart_eq (negative : Bool) (n : Nat) (scale : Int) (cs : Input) :
    exponentPart negative n scale cs =
      unsignedExponent negative (exponentSign cs).1 n scale (exponentSign cs).2 := rfl

theorem exponentSign_of_ne {symbol : Symbol} (hplus : symbol ≠ .char '+')
    (hminus : symbol ≠ .char '-') (cs : Input) :
    exponentSign (symbol :: cs) = (false, symbol :: cs) := by
  unfold exponentSign
  split
  · next heq => exact absurd (List.cons.inj heq).1 hplus
  · next heq => exact absurd (List.cons.inj heq).1 hminus
  · rfl

theorem afterDigits_of_ne {symbol : Symbol} (hsmall : symbol ≠ .char 'e')
    (hlarge : symbol ≠ .char 'E') (negative : Bool) (n : Nat) (scale : Int) (cs : Input) :
    afterDigits negative n scale (symbol :: cs) = floatValue negative n scale (symbol :: cs) := by
  unfold afterDigits
  split
  · next heq => exact absurd (List.cons.inj heq).1 hsmall
  · next heq => exact absurd (List.cons.inj heq).1 hlarge
  · rfl

/-- What may follow the digits before the point. -/
def afterInteger (negative : Bool) (n left : Nat) : Reader Value
  | .char '.' :: rest => fractionPart negative n left rest
  | .char 'e' :: rest => exponentPart negative n left rest
  | .char 'E' :: rest => exponentPart negative n left rest
  | rest =>
    if left = 0 then .ok (integerValue negative n, rest) else floatValue negative n left rest

theorem number_of_digits {negative : Bool} {cs rest : Input} {d : Nat} {ds : List Nat}
    (h : digits cs = (d :: ds, rest)) (hzero : ¬ (d = 0 && !ds.isEmpty) = true) :
    number negative cs = afterInteger negative (appendDigits 0 (d :: ds)).1
      (appendDigits 0 (d :: ds)).2 rest := by
  rw [number, h]
  simp only [if_neg hzero]
  rfl

theorem afterInteger_of_ne {symbol : Symbol} (hpoint : symbol ≠ .char '.')
    (hsmall : symbol ≠ .char 'e') (hlarge : symbol ≠ .char 'E') (negative : Bool) (n left : Nat)
    (cs : Input) :
    afterInteger negative n left (symbol :: cs) =
      if left = 0 then .ok (integerValue negative n, symbol :: cs)
      else floatValue negative n left (symbol :: cs) := by
  unfold afterInteger
  split
  · next heq => exact absurd (List.cons.inj heq).1 hpoint
  · next heq => exact absurd (List.cons.inj heq).1 hsmall
  · next heq => exact absurd (List.cons.inj heq).1 hlarge
  · rfl

theorem integerValue_isNumber (negative : Bool) (n : Nat) :
    (integerValue negative n).isNumber = true := by
  unfold integerValue
  repeat' split
  all_goals rfl

/-! ## The next part -/

/-- An input at an item: it is not over, and the array is neither. -/
def Begins (cs : Input) : Prop := ∃ symbol rest, cs = symbol :: rest ∧ symbol ≠ .char ']'

theorem Begins.ne_nil {cs : Input} (h : Begins cs) : cs ≠ [] := by
  obtain ⟨symbol, rest, rfl, -⟩ := h
  exact List.cons_ne_nil symbol rest

/-- **The next item**: there is none, it is the first, or it stands behind a comma. -/
theorem nextItem_eq_ok_iff {cs rest : Input} {first more : Bool} :
    nextItem first cs = .ok (more, rest) ↔
      (more = false ∧ skipSpace cs = .char ']' :: rest) ∨
      (more = true ∧ first = true ∧ skipSpace cs = rest ∧ Begins rest) ∨
      more = true ∧ first = false ∧ ∃ after, skipSpace cs = .char ',' :: after ∧
        skipSpace after = rest ∧ Begins rest := by
  constructor
  · intro h
    unfold nextItem at h
    split at h
    · cases h
    · next hcs =>
      cases h
      exact .inl ⟨rfl, hcs⟩
    · next after hcs =>
      split at h
      · next hfirst =>
        cases h
        exact .inr (.inl ⟨rfl, hfirst, hcs, _, _, rfl, by decide⟩)
      · next hfirst =>
        split at h
        · cases h
        · cases h
        · next hne hclose =>
          cases h
          obtain ⟨symbol, rest, hafter⟩ := List.exists_cons_of_ne_nil hne
          exact .inr (.inr ⟨rfl, Bool.not_eq_true _ ▸ hfirst, after, hcs, rfl, symbol, rest,
            hafter, fun heq => hclose rest (heq ▸ hafter)⟩)
    · next hne hclose hcomma =>
      split at h
      · next hfirst =>
        cases h
        obtain ⟨symbol, rest, hcs⟩ := List.exists_cons_of_ne_nil hne
        exact .inr (.inl ⟨rfl, hfirst, rfl, symbol, rest, hcs,
          fun heq => hclose rest (heq ▸ hcs)⟩)
      · cases h
  · rintro (⟨rfl, hcs⟩ | ⟨rfl, rfl, hcs, symbol, behind, rfl, hclose⟩ |
      ⟨rfl, rfl, after, hcs, hafter, symbol, behind, rfl, hclose⟩)
    · rw [nextItem, hcs]
      rfl
    · rw [nextItem, hcs]
      split
      · next heq => cases heq
      · next heq => exact absurd (List.cons.inj heq).1 hclose
      · next heq =>
        rw [heq]
        rfl
      · rfl
    · rw [nextItem, hcs]
      simp only [Bool.false_eq_true, if_false, hafter]
      split
      · next heq => cases heq
      · next heq => exact absurd (List.cons.inj heq).1 hclose
      · rfl

theorem ne_nil_of_nextItem {cs rest : Input} {first more : Bool}
    (h : nextItem first cs = .ok (more, rest)) : cs ≠ [] := by
  rintro rfl
  cases h

theorem length_lt_of_nextItem {cs rest : Input} (h : nextItem false cs = .ok (true, rest)) :
    rest.length < cs.length := by
  rcases nextItem_eq_ok_iff.mp h with ⟨hmore, -⟩ | ⟨-, hfirst, -⟩ | ⟨-, -, after, hcs, rfl, -⟩
  · cases hmore
  · cases hfirst
  · have hskip : (skipSpace cs).length ≤ cs.length := (List.dropWhile_suffix _).length_le
    have hafter : (skipSpace after).length ≤ after.length := (List.dropWhile_suffix _).length_le
    rw [hcs, List.length_cons] at hskip
    omega

/-- **The next key**: there is none, it is the first, or it stands behind a comma. -/
theorem nextKey_eq_ok_iff {cs rest : Input} {first more : Bool} :
    nextKey first cs = .ok (more, rest) ↔
      (more = false ∧ skipSpace cs = .char '\x7D' :: rest) ∨
      (more = true ∧ first = true ∧ skipSpace cs = .char '"' :: rest) ∨
      more = true ∧ first = false ∧ ∃ after, skipSpace cs = .char ',' :: after ∧
        skipSpace after = .char '"' :: rest := by
  constructor
  · intro h
    unfold nextKey at h
    split at h
    · cases h
    · next hcs =>
      cases h
      exact .inl ⟨rfl, hcs⟩
    · next after hcs =>
      split at h
      · cases h
      · next hfirst =>
        split at h
        · cases h
        · next hafter =>
          cases h
          exact .inr (.inr ⟨rfl, Bool.not_eq_true _ ▸ hfirst, after, hcs, hafter⟩)
        · cases h
        · cases h
    · next hcs =>
      split at h
      · next hfirst =>
        cases h
        exact .inr (.inl ⟨rfl, hfirst, hcs⟩)
      · cases h
    · cases h
  · rintro (⟨rfl, hcs⟩ | ⟨rfl, rfl, hcs⟩ | ⟨rfl, rfl, after, hcs, hafter⟩)
    · rw [nextKey, hcs]
      rfl
    · rw [nextKey, hcs]
      rfl
    · rw [nextKey, hcs]
      simp [hafter]

theorem ne_nil_of_nextKey {cs rest : Input} {first more : Bool}
    (h : nextKey first cs = .ok (more, rest)) : cs ≠ [] := by
  rintro rfl
  cases h

theorem colon_eq_ok_iff {cs rest : Input} :
    colon cs = .ok rest ↔ skipSpace cs = .char ':' :: rest := by
  constructor
  · intro h
    unfold colon at h
    split at h
    · cases h
    · next hcs =>
      cases h
      exact hcs
    · cases h
  · intro h
    rw [colon, h]
    rfl

/-! ## Parts -/

section Blocks

variable {α : Type} {item : Reader α} {fuel : Nat} {first : Bool} {cs rest : Input}

/-- **What items are read from.** -/
theorem items_succ_eq_ok_iff {vs : List α} :
    items item (fuel + 1) first cs = .ok (vs, rest) ↔
      (vs = [] ∧ nextItem first cs = .ok (false, rest)) ∨
      ∃ v ws cs₁ cs₂, vs = v :: ws ∧ nextItem first cs = .ok (true, cs₁) ∧
        item cs₁ = .ok (v, cs₂) ∧ items item fuel false cs₂ = .ok (ws, rest) := by
  constructor
  · intro h
    unfold items at h
    split at h
    · cases h
    · next hnext =>
      cases h
      exact .inl ⟨rfl, hnext⟩
    · next cs₁ hnext =>
      split at h
      · cases h
      · next v cs₂ hv =>
        obtain ⟨⟨ws, after⟩, hws, heq⟩ := exists_ok_of_map h
        cases heq
        exact .inr ⟨v, ws, cs₁, cs₂, rfl, hnext, hv, hws⟩
  · rintro (⟨rfl, hnext⟩ | ⟨v, ws, cs₁, cs₂, rfl, hnext, hv, hws⟩)
    · simp only [items, hnext]
    · simp only [items, hnext, hv, hws]
      rfl

/-- **What members are read from.** -/
theorem members_succ_eq_ok_iff {ms : List (String × α)} :
    members item (fuel + 1) first cs = .ok (ms, rest) ↔
      (ms = [] ∧ nextKey first cs = .ok (false, rest)) ∨
      ∃ k v ns cs₁ cs₂ cs₃ cs₄, ms = (k, v) :: ns ∧ nextKey first cs = .ok (true, cs₁) ∧
        string cs₁ = .ok (k, cs₂) ∧ colon cs₂ = .ok cs₃ ∧ item cs₃ = .ok (v, cs₄) ∧
        members item fuel false cs₄ = .ok (ns, rest) := by
  constructor
  · intro h
    unfold members at h
    split at h
    · cases h
    · next hnext =>
      cases h
      exact .inl ⟨rfl, hnext⟩
    · next cs₁ hnext =>
      split at h
      · cases h
      · next k cs₂ hk =>
        split at h
        · cases h
        · next cs₃ hcolon =>
          split at h
          · cases h
          · next v cs₄ hv =>
            obtain ⟨⟨ns, after⟩, hns, heq⟩ := exists_ok_of_map h
            cases heq
            exact .inr ⟨k, v, ns, cs₁, cs₂, cs₃, cs₄, rfl, hnext, hk, hcolon, hv, hns⟩
  · rintro (⟨rfl, hnext⟩ | ⟨k, v, ns, cs₁, cs₂, cs₃, cs₄, rfl, hnext, hk, hcolon, hv, hns⟩)
    · simp only [members, hnext]
    · simp only [members, hnext, hk, hcolon, hv, hns]
      rfl

end Blocks

/-! ## Texts -/

/-- **What a text is read from**: a value, and nothing but blanks behind it. -/
theorem read_eq_ok_iff {cs : Input} {v : Value} :
    read cs = .ok v ↔ ∃ rest, value depthLimit cs = .ok (v, rest) ∧ skipSpace rest = [] := by
  constructor
  · intro h
    unfold read document at h
    split at h
    · next hdocument =>
      cases h
      split at hdocument
      · cases hdocument
      · next rest hv =>
        obtain ⟨⟨⟩, hend, heq⟩ := exists_ok_of_map hdocument
        cases heq
        unfold atEnd at hend
        split at hend
        · next hskip => exact ⟨rest, hv, hskip⟩
        · cases hend
    · cases h
  · rintro ⟨rest, hv, hskip⟩
    simp only [read, document, hv, atEnd, hskip]
    rfl

/-- No value begins with two braces. -/
theorem valueWith_braces {cs rest : Input} (h : skipSpace cs = .char '\x7B' :: .char '\x7B' :: rest)
    (part : Option (Reader Value)) (p : Value × Input) : valueWith part cs ≠ .ok p := by
  intro hread
  cases part with
  | none =>
      rw [valueWith, h] at hread
      cases hread
  | some item =>
      rw [valueWith, h] at hread
      obtain ⟨⟨ms, after⟩, hms, -⟩ := exists_ok_of_map hread
      have hskip : skipSpace (.char '\x7B' :: rest) = .char '\x7B' :: rest := rfl
      rcases members_succ_eq_ok_iff.mp hms with
        ⟨-, hnext⟩ | ⟨k, v, ns, cs₁, cs₂, cs₃, cs₄, -, hnext, -⟩
      all_goals
        rcases nextKey_eq_ok_iff.mp hnext with ⟨-, hkey⟩ | ⟨-, -, hkey⟩ | ⟨-, -, after, hkey, -⟩
        all_goals
          rw [hskip] at hkey
          exact absurd (List.cons.inj hkey).1 (by decide)

end Expectation.Json
