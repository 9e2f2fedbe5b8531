import Expectation.DocumentError
import Expectation.Proofs.Text.Digits
import Expectation.Proofs.Text.Pieces

/-!
# Finding sentinels

The sentinel of a place that was handed out is found whole, and a text without
the front of a sentinel holds none.  These are the two kinds of strings in a
document brought up to date: those that stand for a matcher, and those that
stand for themselves.

## Main results

* `tokenize_sentinel`: a sentinel is found, and the search goes on behind it.
* `Substitution.whole?_eq_some_iff`: which texts are just one sentinel.
* `tokens_of_lacks`: without the front of a sentinel there are only characters.
* `Substitution.restore_of_lacks`: such a text is restored as it is.
-/

namespace Expectation.Placeholder

open Text (Lacks)

/-! ## Steps -/

/-- One step of the search finds a sentinel or a character. -/
theorem tokenize_cons (count keep : Nat) (c : Char) (cs : List Char) :
    (∃ i passed, tokenize count 0 keep (c :: cs) = .mark i :: tokenize count passed 0 cs) ∨
      ∃ next, tokenize count 0 keep (c :: cs) = .char c :: tokenize count 0 next cs := by
  cases keep with
  | succ keep => exact .inr ⟨keep, rfl⟩
  | zero =>
      rw [tokenize]
      split
      · split
        · exact .inl ⟨_, _, rfl⟩
        · exact .inr ⟨_, rfl⟩
      · exact .inr ⟨0, rfl⟩

@[simp]
theorem tokenize_nil (count drop keep : Nat) : tokenize count drop keep [] = [] := by
  cases drop <;> cases keep <;> rfl

/-! ## Texts without sentinels -/

theorem tokenize_of_lacks (count : Nat) {cs : List Char} (h : Lacks sentinelFront cs) :
    tokenize count 0 0 cs = cs.map .char := by
  induction cs with
  | nil => rfl
  | cons c cs ih =>
      have hfront : ¬ sentinelFront.isPrefixOf (c :: cs) = true :=
        fun hbegin => h (List.isPrefixOf_iff_prefix.mp hbegin).isInfix
      rw [tokenize, if_neg hfront, ih (h.of_infix (List.suffix_cons c cs).isInfix)]
      rfl

theorem tokens_of_lacks (count : Nat) {text : String} (h : Lacks sentinelFront text.toList) :
    tokens count text = text.toList.map .char :=
  tokenize_of_lacks count h

/-! ## Sentinels -/

/-- The number of a place that was handed out. -/
structure NamesPlace (count : Nat) (ds : List Char) : Prop where
  ne_nil : ds ≠ []
  digits : ∀ d ∈ ds, d.isDigit = true
  lt : Binary64.digitsValue ds < count

theorem namesPlace_toDigits {count i : Nat} (h : i < count) :
    NamesPlace count (Nat.toDigits 10 i) :=
  ⟨Nat.toDigits_ne_nil, fun _ hd => Text.isDigit_of_mem_toDigits hd,
    (Text.digitsValue_toDigits i).symm ▸ h⟩

/-- The number of a place and the back of a sentinel name the place. -/
theorem NamesPlace.sentinelPlace?_eq {count : Nat} {ds : List Char} (h : NamesPlace count ds)
    (rest : List Char) :
    sentinelPlace? count (ds ++ (sentinelBack ++ rest)) =
      some (Binary64.digitsValue ds, ds.length + sentinelBack.length) := by
  have htake : (ds ++ (sentinelBack ++ rest)).takeWhile Char.isDigit = ds := by
    rw [List.takeWhile_append_of_pos h.digits]
    exact List.append_nil _
  have hback : sentinelBack.isPrefixOf (sentinelBack ++ rest) = true :=
    List.isPrefixOf_iff_prefix.mpr (List.prefix_append _ _)
  simp [sentinelPlace?, htake, h.ne_nil, h.lt, hback]

/-- What names a place begins with its number and what every sentinel ends with. -/
theorem exists_of_sentinelPlace? {count n length : Nat} {cs : List Char}
    (h : sentinelPlace? count cs = some (n, length)) :
    ∃ ds rest, NamesPlace count ds ∧ cs = ds ++ (sentinelBack ++ rest) ∧
      n = Binary64.digitsValue ds ∧ length = ds.length + sentinelBack.length := by
  obtain ⟨ds, hds⟩ : ∃ ds, cs.takeWhile Char.isDigit = ds := ⟨_, rfl⟩
  rw [sentinelPlace?, hds] at h
  split at h
  · next htest =>
    simp only [Bool.and_eq_true, Bool.not_eq_true', decide_eq_true_eq,
      List.isEmpty_eq_false_iff, List.isPrefixOf_iff_prefix] at htest
    obtain ⟨⟨hne, hlt⟩, rest, hback⟩ := htest
    obtain ⟨rfl, rfl⟩ := Prod.mk.inj (Option.some.inj h)
    have hdigits : ∀ d ∈ ds, d.isDigit = true := by
      rw [← hds]
      exact List.all_eq_true.mp List.all_takeWhile
    have hprefix : ds <+: cs := hds ▸ List.takeWhile_prefix Char.isDigit
    refine ⟨ds, rest, ⟨hne, hdigits, hlt⟩, ?_, rfl, rfl⟩
    rw [hback]
    exact List.prefix_append_drop hprefix
  · contradiction

/-- The characters of a sentinel are passed over. -/
theorem tokenize_drop (count n : Nat) (cs : List Char) :
    tokenize count n 0 cs = tokenize count 0 0 (cs.drop n) := by
  induction cs generalizing n with
  | nil => simp
  | cons c cs ih =>
      cases n with
      | zero => rfl
      | succ n => exact ih n

theorem sentinelFront_isPrefix (i : Nat) : sentinelFront <+: sentinel i := by
  rw [sentinel, List.append_assoc]
  exact List.prefix_append _ _

theorem sentinel_ne_nil (i : Nat) : sentinel i ≠ [] := by
  obtain ⟨back, hback⟩ := sentinelFront_isPrefix i
  rw [← hback]
  exact List.append_ne_nil_of_left_ne_nil (by decide) back

/-- A sentinel is made of the characters of its front and of digits. -/
theorem of_mem_sentinel {i : Nat} {c : Char} (h : c ∈ sentinel i) :
    c ∈ sentinelFront ∨ c.isDigit = true := by
  rw [sentinel, Text.toList_toString_nat] at h
  rcases List.mem_append.mp h with h | hback
  · rcases List.mem_append.mp h with hfront | hdigits
    · exact .inl hfront
    · exact .inr (Text.isDigit_of_mem_toDigits hdigits)
  · have hall : ∀ d ∈ sentinelBack, d ∈ sentinelFront :=
      List.all_iff_forall_prop.mp (by decide)
    exact .inl (hall c hback)

theorem quote_not_mem_sentinel (i : Nat) : '"' ∉ sentinel i :=
  fun h => absurd (of_mem_sentinel h) (by decide)

/-- What names a place is found between the front and the back of a sentinel. -/
theorem NamesPlace.tokenize {count : Nat} {ds : List Char} (h : NamesPlace count ds)
    (rest : List Char) :
    tokenize count 0 0 (sentinelFront ++ ds ++ sentinelBack ++ rest) =
      .mark (Binary64.digitsValue ds) :: tokenize count 0 0 rest := by
  obtain ⟨c, front, hfront⟩ : ∃ c front, sentinelFront = c :: front := ⟨_, _, rfl⟩
  have hbegin : sentinelFront.isPrefixOf (sentinelFront ++ ds ++ sentinelBack ++ rest) = true := by
    rw [List.isPrefixOf_iff_prefix, List.append_assoc, List.append_assoc]
    exact List.prefix_append _ _
  have hplace : sentinelPlace? count
      ((sentinelFront ++ ds ++ sentinelBack ++ rest).drop sentinelFront.length) =
        some (Binary64.digitsValue ds, ds.length + sentinelBack.length) := by
    rw [List.append_assoc, List.append_assoc, List.drop_left]
    exact h.sentinelPlace?_eq rest
  have hcons : sentinelFront ++ ds ++ sentinelBack ++ rest =
      c :: (front ++ (ds ++ sentinelBack) ++ rest) := by
    simp [hfront]
  have hlength : sentinelFront.length + (ds.length + sentinelBack.length) - 1 =
      (front ++ (ds ++ sentinelBack)).length := by
    rw [hfront, List.length_append, List.length_append, List.length_cons]
    omega
  rw [hcons] at hbegin hplace ⊢
  rw [Placeholder.tokenize, if_pos hbegin, hplace]
  dsimp only
  rw [hlength, tokenize_drop count (List.length _), List.drop_left]

/-- What is found at the front of a text names its place there. -/
theorem exists_of_tokenize_eq_mark {count i : Nat} {cs : List Char} {ts : List Token}
    (h : tokenize count 0 0 cs = .mark i :: ts) :
    ∃ ds rest, NamesPlace count ds ∧ Binary64.digitsValue ds = i ∧
      cs = sentinelFront ++ ds ++ sentinelBack ++ rest ∧ ts = tokenize count 0 0 rest := by
  cases cs with
  | nil => exact absurd h (by simp)
  | cons c cs =>
      have hsearch := h
      rw [Placeholder.tokenize] at hsearch
      split at hsearch
      · next hfront =>
        split at hsearch
        · next n length hplace =>
          obtain ⟨ds, rest, hnames, hdrop, rfl, -⟩ := exists_of_sentinelPlace? hplace
          have htext : c :: cs = sentinelFront ++ ds ++ sentinelBack ++ rest := by
            rw [List.append_assoc, List.append_assoc, ← hdrop]
            exact List.prefix_append_drop (List.isPrefixOf_iff_prefix.mp hfront)
          rw [htext, hnames.tokenize] at h
          obtain ⟨hmark, hrest⟩ := List.cons.inj h
          exact ⟨ds, rest, hnames, Token.mark.inj hmark, htext, hrest.symm⟩
        · exact absurd (List.cons.inj hsearch).1 (by simp)
      · exact absurd (List.cons.inj hsearch).1 (by simp)

theorem eq_nil_of_tokenize_eq_nil {count : Nat} {cs : List Char}
    (h : tokenize count 0 0 cs = []) : cs = [] := by
  cases cs with
  | nil => rfl
  | cons c cs =>
      obtain ⟨i, passed, hfound⟩ | ⟨next, hpassed⟩ := tokenize_cons count 0 c cs
      · exact absurd (hfound.symm.trans h) (List.cons_ne_nil _ _)
      · exact absurd (hpassed.symm.trans h) (List.cons_ne_nil _ _)

/-- **Sentinels are found**, whatever stands behind them. -/
theorem tokenize_sentinel {count i : Nat} (h : i < count) (rest : List Char) :
    tokenize count 0 0 (sentinel i ++ rest) = .mark i :: tokenize count 0 0 rest := by
  have hfound := (namesPlace_toDigits h).tokenize rest
  rw [Text.digitsValue_toDigits] at hfound
  rw [sentinel, Text.toList_toString_nat]
  exact hfound

end Expectation.Placeholder

namespace Expectation.Substitution

open Placeholder
open Text (Lacks)

/-- A text names a place if it is the sentinel of the place, but for zeros in front of the
number. -/
def Names (s : Substitution) (i : Nat) (text : String) : Prop :=
  i < s.expressions.length ∧ ∃ zeros, text.toList =
    sentinelFront ++ (List.replicate zeros '0' ++ (toString i).toList) ++ sentinelBack

/-- **A text is just one sentinel if it names the place.** -/
theorem whole?_eq_some_iff {s : Substitution} {text : String} {i : Nat} :
    s.whole? text = some i ↔ s.Names i text := by
  constructor
  · intro h
    unfold whole? at h
    split at h
    · next hmark =>
      obtain rfl := Option.some.inj h
      obtain ⟨ds, rest, hnames, rfl, htext, hrest⟩ := exists_of_tokenize_eq_mark hmark
      obtain rfl := eq_nil_of_tokenize_eq_nil hrest.symm
      obtain ⟨zeros, hzeros⟩ := Text.exists_eq_zeros_append hnames.ne_nil hnames.digits
      refine ⟨hnames.lt, zeros, ?_⟩
      rw [htext, List.append_nil, Text.toList_toString_nat, ← hzeros]
    · contradiction
  · rintro ⟨hlt, zeros, htext⟩
    rw [Text.toList_toString_nat] at htext
    have hvalue := Text.digitsValue_zeros_append zeros i
    have hnames : NamesPlace s.expressions.length
        (List.replicate zeros '0' ++ Nat.toDigits 10 i) := by
      refine ⟨List.append_ne_nil_of_right_ne_nil _ Nat.toDigits_ne_nil, fun d hd => ?_,
        hvalue.symm ▸ hlt⟩
      rcases List.mem_append.mp hd with hzero | hdigit
      · rw [List.eq_of_mem_replicate hzero]
        rfl
      · exact Text.isDigit_of_mem_toDigits hdigit
    have hfound := hnames.tokenize []
    rw [List.append_nil, hvalue, tokenize_nil] at hfound
    rw [whole?, tokens, Placeholder.tokens, htext, hfound]

theorem whole?_sentinel {s : Substitution} {i : Nat} (h : i < s.expressions.length) :
    s.whole? (String.ofList (sentinel i)) = some i :=
  whole?_eq_some_iff.mpr ⟨h, 0, String.toList_ofList⟩

/-- A text in which no sentinel is found is not one. -/
theorem whole?_of_tokens {s : Substitution} {text : String}
    (h : s.tokens text = text.toList.map .char) : s.whole? text = none := by
  rw [whole?, h]
  cases text.toList with
  | nil => rfl
  | cons c cs => rfl

/-- A text in which no sentinel is found is restored as it is. -/
theorem restore_of_tokens {s : Substitution} {text : String}
    (h : s.tokens text = text.toList.map .char) : s.restore text = text := by
  rw [restore, h, List.flatMap_map]
  simp

/-- A text without the front of a sentinel is not one. -/
theorem whole?_of_lacks (s : Substitution) {text : String}
    (h : Lacks sentinelFront text.toList) : s.whole? text = none :=
  whole?_of_tokens (tokens_of_lacks _ h)

/-- A text without the front of a sentinel is restored as it is. -/
theorem restore_of_lacks (s : Substitution) {text : String}
    (h : Lacks sentinelFront text.toList) : s.restore text = text :=
  restore_of_tokens (tokens_of_lacks _ h)

end Expectation.Substitution
