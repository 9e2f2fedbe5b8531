import Mathlib.Data.List.Forall2
import Expectation.Proofs.Json.Taking

/-!
# Reading two inputs in step

Two inputs that differ only in their strings are read in step: where the one gives a value, the
other gives a value that differs from it only in the strings.  All readers but the one for
strings look at symbols that both inputs have, so each of them gets one lemma, which says that
it takes two such inputs to two such inputs.

The inputs may also differ where the first cannot be read: in a string that is none, and behind
two opening braces, since an opening brace is followed by a key.

## Main results

* `Tandem.number`: numbers are read in step.
* `Tandem.value`: so are values.
* `read_of_tandem`: so are whole texts.
-/

namespace Expectation.Json

open Text (Symbol)

/-- Two inputs that differ only in their strings, and in these as `R` says, as far as the
first can be read. -/
inductive Tandem (R : String → String → Prop) : Input → Input → Prop
  | nil : Tandem R [] []
  | cons {symbol : Symbol} {cs ds : Input} (hsymbol : symbol ≠ .char '"') (h : Tandem R cs ds) :
      Tandem R (symbol :: cs) (symbol :: ds)
  | string {x y : String} {cs ds rest rest' : Input} (hx : string cs = .ok (x, rest))
      (hy : string ds = .ok (y, rest')) (hxy : R x y) (h : Tandem R rest rest') :
      Tandem R (.char '"' :: cs) (.char '"' :: ds)
  | unread {cs ds : Input} {f : Failure} (hf : string cs = .error f) :
      Tandem R (.char '"' :: cs) (.char '"' :: ds)
  | braces {cs ds : Input} : Tandem R (.char '\x7B' :: .char '\x7B' :: cs) (.char '"' :: ds)

/-- Two readings in step: where the first gives a value, the second gives one that is related
to it by `V`, and what they leave is in tandem again. -/
def InStep {α β : Type} (R : String → String → Prop) (V : α → β → Prop) (ds : Input)
    (p : Except Failure (α × Input)) (q : Except Failure (β × Input)) : Prop :=
  ∀ a rest, p = .ok (a, rest) → ∃ b rest', q = .ok (b, rest') ∧ V a b ∧ Tandem R rest rest' ∧
    rest' <:+ ds

section

variable {R : String → String → Prop} {cs ds es : Input}

namespace InStep

variable {α β γ δ : Type} {V : α → β → Prop} {W : γ → δ → Prop}
  {p : Except Failure (α × Input)} {q : Except Failure (β × Input)}

theorem ok {a : α} {b : β} (hV : V a b) (h : Tandem R cs ds) (hs : ds <:+ es) :
    InStep R V es (.ok (a, cs)) (.ok (b, ds)) := by
  rintro a rest heq
  cases heq
  exact ⟨b, ds, rfl, hV, h, hs⟩

theorem error (f : Failure) : InStep R V es (.error f) q := by
  rintro a rest heq
  cases heq

/-- Readings that go on in step go on in step with all that was there before. -/
theorem of_suffix (h : InStep R V ds p q) (hs : ds <:+ es) : InStep R V es p q := by
  intro a rest hp
  obtain ⟨b, rest', hq, hV, htandem, hs'⟩ := h a rest hp
  exact ⟨b, rest', hq, hV, htandem, hs'.trans hs⟩

theorem imp {V' : α → β → Prop} (h : InStep R V ds p q) (hV : ∀ a b, V a b → V' a b) :
    InStep R V' ds p q := by
  intro a rest hp
  obtain ⟨b, rest', hq, hab, htandem, hs⟩ := h a rest hp
  exact ⟨b, rest', hq, hV a b hab, htandem, hs⟩

theorem map {f : α → γ} {g : β → δ} (h : InStep R V es p q) (hW : ∀ a b, V a b → W (f a) (g b)) :
    InStep R W es (p.map fun (a, rest) => (f a, rest)) (q.map fun (b, rest) => (g b, rest)) := by
  intro c rest heq
  obtain ⟨⟨a, rest⟩, hp, hc⟩ := exists_ok_of_map heq
  cases hc
  obtain ⟨b, rest', rfl, hV, htandem, hs⟩ := h a rest hp
  exact ⟨g b, rest', rfl, hW a b hV, htandem, hs⟩

end InStep

namespace Tandem

/-! ## Blanks and words -/

/-- What is behind a symbol that both inputs have. -/
theorem of_cons {symbol : Symbol} (hquote : symbol ≠ .char '"') (hbrace : symbol ≠ .char '\x7B')
    (h : Tandem R (symbol :: cs) ds) : ∃ ds', ds = symbol :: ds' ∧ Tandem R cs ds' := by
  cases h with
  | cons hsymbol h => exact ⟨_, rfl, h⟩
  | string | unread => exact absurd rfl hquote
  | braces => exact absurd rfl hbrace

theorem of_mark (h : Tandem R (.char '"' :: cs) ds) : ∃ ds', ds = .char '"' :: ds' := by
  cases h with
  | cons hsymbol h => exact absurd rfl hsymbol
  | string | unread => exact ⟨_, rfl⟩

theorem skipSpace (h : Tandem R cs ds) : Tandem R (skipSpace cs) (skipSpace ds) := by
  induction h with
  | nil => exact .nil
  | @cons symbol cs ds hsymbol h ih =>
      unfold Json.skipSpace at ih ⊢
      rw [List.dropWhile_cons, List.dropWhile_cons]
      split
      · exact ih
      · exact .cons hsymbol h
  | string hx hy hxy h => exact .string hx hy hxy h
  | unread hf => exact .unread hf
  | braces => exact .braces

theorem skipSpace_suffix (ds : Input) : Json.skipSpace ds <:+ ds :=
  List.dropWhile_suffix _

theorem word {α β : Type} {V : α → β → Prop} {a : α} {b : β} (hV : V a b) {w : List Char}
    (hquote : '"' ∉ w) (hbrace : '\x7B' ∉ w) (h : Tandem R cs ds) :
    InStep R V ds ((Json.word w cs).map (a, ·)) ((Json.word w ds).map (b, ·)) := by
  induction w generalizing cs ds with
  | nil =>
      have hdone : ∀ es, Json.word [] es = .ok es := fun es => by cases es <;> rfl
      rw [hdone, hdone]
      exact .ok hV h (List.suffix_refl ds)
  | cons c w ih =>
      obtain ⟨hc, hw⟩ := not_or.mp (mt List.mem_cons.mpr hquote)
      obtain ⟨hc', hw'⟩ := not_or.mp (mt List.mem_cons.mpr hbrace)
      have hfail : ∀ d es, d ≠ c → InStep R V ds
          ((Json.word (c :: w) (.char d :: es)).map (a, ·))
          ((Json.word (c :: w) ds).map (b, ·)) := by
        intro d es hd
        rw [Json.word, if_neg (by simpa using hd)]
        exact .error _
      cases h with
      | nil => exact .error _
      | @cons symbol cs ds hsymbol h =>
          rw [Json.word, Json.word]
          split
          · exact (ih hw hw' h).of_suffix (List.suffix_cons _ ds)
          · exact .error _
      | string => exact hfail _ _ hc
      | unread => exact hfail _ _ hc
      | braces => exact hfail _ _ hc'

/-! ## Numbers -/

/-- The same number. -/
def SameNumber (v w : Value) : Prop := v = w ∧ v.isNumber = true

theorem digits (h : Tandem R cs ds) :
    ∃ ns rest rest', Json.digits cs = (ns, rest) ∧ Json.digits ds = (ns, rest') ∧
      Tandem R rest rest' ∧ rest' <:+ ds := by
  have hnone : ∀ {cs ds : Input}, Tandem R cs ds → Json.digits cs = ([], cs) →
      Json.digits ds = ([], ds) → ∃ ns rest rest', Json.digits cs = (ns, rest) ∧
        Json.digits ds = (ns, rest') ∧ Tandem R rest rest' ∧ rest' <:+ ds :=
    fun h hcs hds => ⟨[], _, _, hcs, hds, h, List.suffix_refl _⟩
  induction h with
  | nil => exact hnone .nil rfl rfl
  | @cons symbol cs ds hsymbol h ih =>
      obtain ⟨ns, rest, rest', hcs, hds, htandem, hs⟩ := ih
      cases hdigit : decimalDigit? symbol with
      | none =>
          have hstop : ∀ es, Json.digits (symbol :: es) = ([], symbol :: es) := fun es => by
            simp [Json.digits, hdigit]
          exact hnone (.cons hsymbol h) (hstop cs) (hstop ds)
      | some d =>
          refine ⟨d :: ns, rest, rest', ?_, ?_, htandem, hs.trans (List.suffix_cons _ _)⟩
          · simp [Json.digits, hdigit, hcs]
          · simp [Json.digits, hdigit, hds]
  | string hx hy hxy h => exact hnone (.string hx hy hxy h) rfl rfl
  | unread hf => exact hnone (.unread hf) rfl rfl
  | braces => exact hnone .braces rfl rfl

theorem floatValue (negative : Bool) (n : Nat) (scale : Int) (h : Tandem R cs ds) :
    InStep R SameNumber ds (Json.floatValue negative n scale cs)
      (Json.floatValue negative n scale ds) := by
  unfold Json.floatValue
  split
  · exact .ok ⟨rfl, rfl⟩ h (List.suffix_refl ds)
  · exact .error _

theorem exponentDigits (h : Tandem R cs ds) (e : Nat) :
    (∃ n rest rest', Json.exponentDigits e cs = .ok (n, rest) ∧
      Json.exponentDigits e ds = .ok (n, rest') ∧ Tandem R rest rest' ∧ rest' <:+ ds) ∨
    ∃ rest rest', Json.exponentDigits e cs = .error rest ∧
      Json.exponentDigits e ds = .error rest' ∧ Tandem R rest rest' ∧ rest' <:+ ds := by
  induction h generalizing e with
  | nil => exact .inl ⟨e, [], [], rfl, rfl, .nil, List.suffix_refl _⟩
  | @cons symbol cs ds hsymbol h ih =>
      rw [Json.exponentDigits, Json.exponentDigits]
      split
      · split
        · rcases ih _ with
            ⟨n, rest, rest', hcs, hds, htandem, hs⟩ | ⟨rest, rest', hcs, hds, htandem, hs⟩
          · exact .inl ⟨n, rest, rest', hcs, hds, htandem, hs.trans (List.suffix_cons _ _)⟩
          · exact .inr ⟨rest, rest', hcs, hds, htandem, hs.trans (List.suffix_cons _ _)⟩
        · exact .inr ⟨cs, ds, rfl, rfl, h, List.suffix_cons _ _⟩
      · exact .inl ⟨e, _, _, rfl, rfl, .cons hsymbol h, List.suffix_refl _⟩
  | string hx hy hxy h => exact .inl ⟨e, _, _, rfl, rfl, .string hx hy hxy h, List.suffix_refl _⟩
  | unread hf => exact .inl ⟨e, _, _, rfl, rfl, .unread hf, List.suffix_refl _⟩
  | braces => exact .inl ⟨e, _, _, rfl, rfl, .braces, List.suffix_refl _⟩

theorem unsignedExponent (negative down : Bool) (n : Nat) (scale : Int) (h : Tandem R cs ds) :
    InStep R SameNumber ds (Json.unsignedExponent negative down n scale cs)
      (Json.unsignedExponent negative down n scale ds) := by
  have hwhole := h
  cases h with
  | nil => exact .error _
  | @cons symbol cs ds hsymbol h =>
      unfold Json.unsignedExponent
      dsimp only
      split
      · exact .error _
      · rcases hwhole.exponentDigits 0 with
          ⟨e, rest, rest', hcs, hds, htandem, hs⟩ | ⟨rest, rest', hcs, hds, htandem, hs⟩
        · rw [hcs, hds]
          exact (htandem.floatValue negative n _).of_suffix hs
        · rw [hcs, hds]
          dsimp only
          split
          · exact .error _
          · obtain ⟨ns, behind, behind', hrest, hrest', hbehind, hs'⟩ := htandem.digits
            rw [hrest, hrest']
            exact .ok ⟨rfl, rfl⟩ hbehind (hs'.trans hs)
  | string => exact .error _
  | unread => exact .error _
  | braces => exact .error _

theorem exponentSign (h : Tandem R cs ds) :
    (Json.exponentSign cs).1 = (Json.exponentSign ds).1 ∧
      Tandem R (Json.exponentSign cs).2 (Json.exponentSign ds).2 ∧
      (Json.exponentSign ds).2 <:+ ds := by
  have hwhole := h
  cases h with
  | @cons symbol cs ds hsymbol h =>
      by_cases hplus : symbol = .char '+'
      · subst hplus
        exact ⟨rfl, h, List.suffix_cons _ _⟩
      · by_cases hminus : symbol = .char '-'
        · subst hminus
          exact ⟨rfl, h, List.suffix_cons _ _⟩
        · rw [exponentSign_of_ne hplus hminus, exponentSign_of_ne hplus hminus]
          exact ⟨rfl, hwhole, List.suffix_refl _⟩
  | nil | string | unread | braces => exact ⟨rfl, hwhole, List.suffix_refl _⟩

theorem exponentPart (negative : Bool) (n : Nat) (scale : Int) (h : Tandem R cs ds) :
    InStep R SameNumber ds (Json.exponentPart negative n scale cs)
      (Json.exponentPart negative n scale ds) := by
  obtain ⟨hsign, htandem, hs⟩ := h.exponentSign
  rw [exponentPart_eq, exponentPart_eq, hsign]
  exact (htandem.unsignedExponent negative _ n scale).of_suffix hs

theorem afterDigits (negative : Bool) (n : Nat) (scale : Int) (h : Tandem R cs ds) :
    InStep R SameNumber ds (Json.afterDigits negative n scale cs)
      (Json.afterDigits negative n scale ds) := by
  have hwhole := h
  cases h with
  | @cons symbol cs ds hsymbol h =>
      by_cases hsmall : symbol = .char 'e'
      · subst hsmall
        exact (h.exponentPart negative n scale).of_suffix (List.suffix_cons _ _)
      · by_cases hlarge : symbol = .char 'E'
        · subst hlarge
          exact (h.exponentPart negative n scale).of_suffix (List.suffix_cons _ _)
        · rw [afterDigits_of_ne hsmall hlarge, afterDigits_of_ne hsmall hlarge]
          exact hwhole.floatValue negative n scale
  | nil => exact hwhole.floatValue negative n scale
  | string => exact hwhole.floatValue negative n scale
  | unread => exact hwhole.floatValue negative n scale
  | braces => exact hwhole.floatValue negative n scale

theorem fractionPart (negative : Bool) (n : Nat) (scale : Int) (h : Tandem R cs ds) :
    InStep R SameNumber ds (Json.fractionPart negative n scale cs)
      (Json.fractionPart negative n scale ds) := by
  obtain ⟨ns, rest, rest', hcs, hds, htandem, hs⟩ := h.digits
  unfold Json.fractionPart
  rw [hcs, hds]
  cases ns with
  | nil => exact .error _
  | cons d ns => exact (htandem.afterDigits negative _ _).of_suffix hs

theorem afterInteger (negative : Bool) (n left : Nat) (h : Tandem R cs ds) :
    InStep R SameNumber ds (Json.afterInteger negative n left cs)
      (Json.afterInteger negative n left ds) := by
  have hdone : ∀ {cs ds : Input}, Tandem R cs ds →
      InStep R SameNumber ds
        (if left = 0 then .ok (integerValue negative n, cs) else Json.floatValue negative n left cs)
        (if left = 0 then .ok (integerValue negative n, ds)
          else Json.floatValue negative n left ds) := by
    intro cs ds h
    split
    · exact .ok ⟨rfl, integerValue_isNumber negative n⟩ h (List.suffix_refl ds)
    · exact h.floatValue negative n left
  have hwhole := h
  cases h with
  | @cons symbol cs ds hsymbol h =>
      by_cases hpoint : symbol = .char '.'
      · subst hpoint
        exact (h.fractionPart negative n left).of_suffix (List.suffix_cons _ _)
      · by_cases hsmall : symbol = .char 'e'
        · subst hsmall
          exact (h.exponentPart negative n left).of_suffix (List.suffix_cons _ _)
        · by_cases hlarge : symbol = .char 'E'
          · subst hlarge
            exact (h.exponentPart negative n left).of_suffix (List.suffix_cons _ _)
          · rw [afterInteger_of_ne hpoint hsmall hlarge, afterInteger_of_ne hpoint hsmall hlarge]
            exact hdone hwhole
  | nil => exact hdone hwhole
  | string => exact hdone hwhole
  | unread => exact hdone hwhole
  | braces => exact hdone hwhole

/-- **Numbers are read in step.** -/
theorem number (negative : Bool) (h : Tandem R cs ds) :
    InStep R SameNumber ds (Json.number negative cs) (Json.number negative ds) := by
  obtain ⟨ns, rest, rest', hcs, hds, htandem, hs⟩ := h.digits
  cases ns with
  | nil =>
      intro v behind hv
      rw [Json.number, hcs] at hv
      cases rest <;> cases hv
  | cons d ns =>
      by_cases hzero : (d = 0 && !ns.isEmpty) = true
      · intro v behind hv
        rw [Json.number, hcs] at hv
        simp [hzero] at hv
      · rw [number_of_digits hcs hzero, number_of_digits hds hzero]
        exact (htandem.afterInteger negative _ _).of_suffix hs

/-! ## Strings -/

/-- Strings that are read are related. -/
theorem string_of_mark (h : Tandem R (.char '"' :: cs) (.char '"' :: ds)) :
    InStep R R ds (Json.string cs) (Json.string ds) := by
  cases h with
  | cons hsymbol => exact absurd rfl hsymbol
  | @string x y _ _ rest rest' hx hy hxy h =>
      obtain ⟨body, -, hbody⟩ := string_eq_ok_iff.mp hy
      rw [hx, hy]
      refine .ok hxy h ⟨symbols body ++ [.char '"'], ?_⟩
      rw [hbody, List.append_assoc]
      rfl
  | unread hf =>
      rw [hf]
      exact .error _

/-! ## Arrays -/

theorem begins {rest rest' : Input} (h : Tandem R rest rest') (hbegins : Begins rest) :
    Begins rest' := by
  cases h with
  | nil => exact absurd rfl hbegins.ne_nil
  | cons hsymbol h =>
      obtain ⟨symbol, behind, heq, hclose⟩ := hbegins
      exact ⟨_, _, rfl, (List.cons.inj heq).1 ▸ hclose⟩
  | string | unread | braces => exact ⟨_, _, rfl, by decide⟩

theorem nextItem {first more : Bool} {rest : Input} (h : Tandem R cs ds)
    (hread : Json.nextItem first cs = .ok (more, rest)) :
    ∃ rest', Json.nextItem first ds = .ok (more, rest') ∧ Tandem R rest rest' ∧ rest' <:+ ds := by
  have hskip := h.skipSpace
  have hs := skipSpace_suffix ds
  rcases nextItem_eq_ok_iff.mp hread with
    ⟨rfl, hcs⟩ | ⟨rfl, rfl, rfl, hbegins⟩ | ⟨rfl, rfl, after, hcs, rfl, hbegins⟩
  · rw [hcs] at hskip
    obtain ⟨rest', hds, htandem⟩ := hskip.of_cons (by decide) (by decide)
    rw [hds] at hs
    exact ⟨rest', nextItem_eq_ok_iff.mpr (.inl ⟨rfl, hds⟩), htandem,
      (List.suffix_cons _ _).trans hs⟩
  · exact ⟨_, nextItem_eq_ok_iff.mpr (.inr (.inl ⟨rfl, rfl, rfl, hskip.begins hbegins⟩)), hskip, hs⟩
  · rw [hcs] at hskip
    obtain ⟨after', hds, htandem⟩ := hskip.of_cons (by decide) (by decide)
    have hskip' := htandem.skipSpace
    rw [hds] at hs
    exact ⟨_, nextItem_eq_ok_iff.mpr
      (.inr (.inr ⟨rfl, rfl, after', hds, rfl, hskip'.begins hbegins⟩)), hskip',
      (skipSpace_suffix after').trans ((List.suffix_cons _ _).trans hs)⟩

/-- Items are read in step, if there is fuel for the second input. -/
theorem items {α β : Type} {V : α → β → Prop} {item : Reader α} {item' : Reader β}
    (hitem : ∀ {cs ds}, Tandem R cs ds → InStep R V ds (item cs) (item' ds)) {n m : Nat}
    {first : Bool} (h : Tandem R cs ds)
    (hfuel : ds.length < m ∨ first = false ∧ ds.length ≤ m) :
    InStep R (List.Forall₂ V) ds (Json.items item n first cs) (Json.items item' m first ds) := by
  induction n generalizing m first cs ds with
  | zero => exact .error _
  | succ n ih =>
      have hpositive : ∀ {more rest}, Json.nextItem first ds = .ok (more, rest) →
          ∃ k, m = k + 1 := by
        intro more rest hnext
        have hlength := List.length_pos_of_ne_nil (ne_nil_of_nextItem hnext)
        exact Nat.exists_eq_succ_of_ne_zero (by omega)
      intro vs rest hread
      rcases items_succ_eq_ok_iff.mp hread with
        ⟨rfl, hnext⟩ | ⟨v, us, cs₁, cs₂, rfl, hnext, hv, hus⟩
      · obtain ⟨ds₁, hnext', h₁, hs₁⟩ := h.nextItem hnext
        obtain ⟨m, rfl⟩ := hpositive hnext'
        exact ⟨[], ds₁, items_succ_eq_ok_iff.mpr (.inl ⟨rfl, hnext'⟩), .nil, h₁, hs₁⟩
      · obtain ⟨ds₁, hnext', h₁, hs₁⟩ := h.nextItem hnext
        obtain ⟨w, ds₂, hw, hvw, h₂, hs₂⟩ := hitem h₁ _ _ hv
        obtain ⟨m, rfl⟩ := hpositive hnext'
        have hrest : ds₂.length ≤ m := by
          have hlength := hs₂.length_le
          rcases hfuel with hlt | ⟨rfl, hle⟩
          · have hlength' := hs₁.length_le
            omega
          · have hlength' := length_lt_of_nextItem hnext'
            omega
        obtain ⟨ws, ds₃, hws, hall, h₃, hs₃⟩ := ih h₂ (.inr ⟨rfl, hrest⟩) _ _ hus
        exact ⟨w :: ws, ds₃,
          items_succ_eq_ok_iff.mpr (.inr ⟨w, ws, ds₁, ds₂, rfl, hnext', hw, hws⟩),
          .cons hvw hall, h₃, hs₃.trans (hs₂.trans hs₁)⟩

/-! ## Objects -/

/-- The mark in front of the next key, where there is one. -/
def keyInput (more : Bool) (rest : Input) : Input :=
  if more then .char '"' :: rest else rest

theorem nextKey {first more : Bool} {rest : Input} (h : Tandem R cs ds)
    (hread : Json.nextKey first cs = .ok (more, rest)) :
    ∃ rest', Json.nextKey first ds = .ok (more, rest') ∧
      Tandem R (keyInput more rest) (keyInput more rest') ∧ keyInput more rest' <:+ ds := by
  have hskip := h.skipSpace
  have hs := skipSpace_suffix ds
  rcases nextKey_eq_ok_iff.mp hread with
    ⟨rfl, hcs⟩ | ⟨rfl, rfl, hcs⟩ | ⟨rfl, rfl, after, hcs, hafter⟩
  · rw [hcs] at hskip
    obtain ⟨rest', hds, htandem⟩ := hskip.of_cons (by decide) (by decide)
    rw [hds] at hs
    exact ⟨rest', nextKey_eq_ok_iff.mpr (.inl ⟨rfl, hds⟩), htandem,
      (List.suffix_cons _ _).trans hs⟩
  · rw [hcs] at hskip
    obtain ⟨rest', hds⟩ := hskip.of_mark
    rw [hds] at hskip hs
    exact ⟨rest', nextKey_eq_ok_iff.mpr (.inr (.inl ⟨rfl, rfl, hds⟩)), hskip, hs⟩
  · rw [hcs] at hskip
    obtain ⟨after', hds, htandem⟩ := hskip.of_cons (by decide) (by decide)
    have hskip' := htandem.skipSpace
    have hs' := skipSpace_suffix after'
    rw [hafter] at hskip'
    obtain ⟨rest', hds'⟩ := hskip'.of_mark
    rw [hds'] at hskip' hs'
    rw [hds] at hs
    exact ⟨rest', nextKey_eq_ok_iff.mpr (.inr (.inr ⟨rfl, rfl, after', hds, hds'⟩)), hskip',
      hs'.trans ((List.suffix_cons _ _).trans hs)⟩

theorem colon {rest : Input} (h : Tandem R cs ds) (hread : Json.colon cs = .ok rest) :
    ∃ rest', Json.colon ds = .ok rest' ∧ Tandem R rest rest' ∧ rest' <:+ ds := by
  have hskip := h.skipSpace
  have hs := skipSpace_suffix ds
  rw [colon_eq_ok_iff.mp hread] at hskip
  obtain ⟨rest', hds, htandem⟩ := hskip.of_cons (by decide) (by decide)
  rw [hds] at hs
  exact ⟨rest', colon_eq_ok_iff.mpr hds, htandem, (List.suffix_cons _ _).trans hs⟩

/-- Members are read in step, if there is fuel for the second input. -/
theorem members {α β : Type} {V : α → β → Prop} {item : Reader α} {item' : Reader β}
    (hitem : ∀ {cs ds}, Tandem R cs ds → InStep R V ds (item cs) (item' ds)) {n m : Nat}
    {first : Bool} (h : Tandem R cs ds) (hfuel : ds.length ≤ m) :
    InStep R (List.Forall₂ fun a b => R a.1 b.1 ∧ V a.2 b.2) ds
      (Json.members item n first cs) (Json.members item' m first ds) := by
  induction n generalizing m first cs ds with
  | zero => exact .error _
  | succ n ih =>
      have hpositive : ∀ {more rest}, Json.nextKey first ds = .ok (more, rest) →
          ∃ k, m = k + 1 := by
        intro more rest hnext
        have hlength := List.length_pos_of_ne_nil (ne_nil_of_nextKey hnext)
        exact Nat.exists_eq_succ_of_ne_zero (by omega)
      intro ms rest hread
      rcases members_succ_eq_ok_iff.mp hread with
        ⟨rfl, hnext⟩ | ⟨x, v, ns, cs₁, cs₂, cs₃, cs₄, rfl, hnext, hx, hcolon, hv, hns⟩
      · obtain ⟨ds₁, hnext', h₁, hs₁⟩ := h.nextKey hnext
        obtain ⟨m, rfl⟩ := hpositive hnext'
        exact ⟨[], ds₁, members_succ_eq_ok_iff.mpr (.inl ⟨rfl, hnext'⟩), .nil, h₁, hs₁⟩
      · obtain ⟨ds₁, hnext', h₁, hs₁⟩ := h.nextKey hnext
        obtain ⟨y, ds₂, hy, hxy, h₂, hs₂⟩ := string_of_mark h₁ _ _ hx
        obtain ⟨ds₃, hcolon', h₃, hs₃⟩ := h₂.colon hcolon
        obtain ⟨w, ds₄, hw, hvw, h₄, hs₄⟩ := hitem h₃ _ _ hv
        obtain ⟨m, rfl⟩ := hpositive hnext'
        have hs := hs₄.trans (hs₃.trans hs₂)
        have hrest : ds₄.length ≤ m := by
          have hlength := hs.length_le
          have hlength' : ds₁.length + 1 ≤ ds.length := hs₁.length_le
          omega
        obtain ⟨us, ds₅, hus, hall, h₅, hs₅⟩ := ih h₄ hrest _ _ hns
        exact ⟨(y, w) :: us, ds₅, members_succ_eq_ok_iff.mpr
          (.inr ⟨y, w, us, ds₁, ds₂, ds₃, ds₄, rfl, hnext', hy, hcolon', hw, hus⟩),
          .cons ⟨hxy, hvw⟩ hall, h₅, hs₅.trans (hs.trans ((List.suffix_cons _ _).trans hs₁))⟩

/-! ## Values -/

/-- A relation of values that lifts a relation of the strings in them. -/
structure Lifts (R : String → String → Prop) (V : Value → Value → Prop) : Prop where
  null : V .null .null
  bool : ∀ b, V (.bool b) (.bool b)
  number : ∀ {v}, v.isNumber = true → V v v
  string : ∀ {x y}, R x y → V (.string x) (.string y)
  array : ∀ {vs ws}, List.Forall₂ V vs ws → V (.array vs) (.array ws)
  object : ∀ {ms ns}, List.Forall₂ (fun a b => R a.1 b.1 ∧ V a.2 b.2) ms ns →
    V (.object (ofPairs ms)) (.object (ofPairs ns))

variable {V : Value → Value → Prop}

/-- A value whose parts are read in step is read in step. -/
theorem valueWith (hV : Lifts R V) {part : Option (Reader Value)}
    (hpart : ∀ item ∈ part, ∀ {cs ds}, Tandem R cs ds → InStep R V ds (item cs) (item ds))
    (h : Tandem R cs ds) :
    InStep R V ds (Json.valueWith part cs) (Json.valueWith part ds) := by
  obtain ⟨as, has⟩ : ∃ as, Json.skipSpace cs = as := ⟨_, rfl⟩
  obtain ⟨bs, hbs⟩ : ∃ bs, Json.skipSpace ds = bs := ⟨_, rfl⟩
  have hskip := h.skipSpace
  have hsuffix := skipSpace_suffix ds
  rw [has, hbs] at hskip
  rw [hbs] at hsuffix
  refine InStep.of_suffix ?_ hsuffix
  have hwhole := hskip
  have hmark : ∀ {as bs}, Tandem R (.char '"' :: as) (.char '"' :: bs) →
      InStep R V (.char '"' :: bs)
        ((Json.string as).map fun p => (.string p.1, p.2))
        ((Json.string bs).map fun p => (.string p.1, p.2)) := by
    intro as bs hmark
    exact (hmark.string_of_mark.map fun _ _ => hV.string).of_suffix (List.suffix_cons _ _)
  have hnumber : ∀ v w, SameNumber v w → V v w := by
    rintro v _ ⟨rfl, hv⟩
    exact hV.number hv
  cases hskip with
  | nil =>
      rw [Json.valueWith, has]
      exact .error _
  | string | unread =>
      rw [Json.valueWith, Json.valueWith, has, hbs]
      exact hmark hwhole
  | braces => exact fun v rest hread => absurd hread (valueWith_braces has part _)
  | @cons symbol as bs hsymbol h =>
      rw [Json.valueWith, Json.valueWith, has, hbs]
      cases symbol with
      | stray b => exact .error _
      | char c =>
          have hs : bs <:+ .char c :: bs := List.suffix_cons _ _
          dsimp only
          split
          · exact (h.word hV.null (by decide) (by decide)).of_suffix hs
          · exact (h.word (hV.bool true) (by decide) (by decide)).of_suffix hs
          · exact (h.word (hV.bool false) (by decide) (by decide)).of_suffix hs
          · exact ((h.number true).imp hnumber).of_suffix hs
          · exact absurd rfl hsymbol
          · split
            · exact .error _
            · next item =>
              have hfuel : bs.length < bs.length + 1 := Nat.lt_succ_self _
              exact ((h.items (hpart item rfl) (.inl hfuel)).map fun _ _ => hV.array).of_suffix hs
          · split
            · exact .error _
            · next item =>
              exact ((h.members (hpart item rfl) (Nat.le_succ _)).map
                fun _ _ => hV.object).of_suffix hs
          · split
            · exact (hwhole.number false).imp hnumber
            · exact .error _

/-- **Values are read in step.** -/
theorem value (hV : Lifts R V) (depth : Nat) (h : Tandem R cs ds) :
    InStep R V ds (Json.value depth cs) (Json.value depth ds) := by
  induction depth generalizing cs ds with
  | zero => exact h.valueWith hV fun item hitem => nomatch hitem
  | succ depth ih =>
      refine h.valueWith hV fun item hitem => ?_
      cases hitem
      exact fun {cs ds} h => ih h

theorem eq_nil (h : Tandem R [] ds) : ds = [] := by
  cases h
  rfl

end Tandem

/-- **Texts are read in step.** -/
theorem read_of_tandem {V : Value → Value → Prop} {v : Value} (hV : Tandem.Lifts R V)
    (h : Tandem R cs ds) (hread : read cs = .ok v) : ∃ w, read ds = .ok w ∧ V v w := by
  obtain ⟨rest, hv, hend⟩ := read_eq_ok_iff.mp hread
  obtain ⟨w, rest', hw, hvw, htandem, -⟩ := h.value hV depthLimit v rest hv
  have hskip := htandem.skipSpace
  rw [hend] at hskip
  exact ⟨w, read_eq_ok_iff.mpr ⟨rest', hw, hskip.eq_nil⟩, hvw⟩

end

end Expectation.Json
