import Expectation.Proofs.Json.Origin
import Expectation.Proofs.Json.Scalars

/-!
# What a string was read from

The reader of strings takes every spelling of a text, and nothing else: what it has read is a
spelling of the text up to the closing mark.  So the input of a reading that succeeds can be
taken apart, and with it the raw text of a document.

## Main results

* `exists_of_escape`: an escape that is read is a spelling.
* `string_eq_ok_iff`: what a string is read from.
-/

namespace Expectation.Json

open Text (Symbol)

variable {cs rest : Input}

/-! ## Digits -/

theorem isHexDigit_of_hexDigit? {symbol : Symbol} {n : Nat} (h : hexDigit? symbol = some n) :
    ∃ c, symbol = .char c ∧ IsHexDigit c n := by
  have hall : ∀ k < 103, ∀ m ∈ hexDigit? (.char (Char.ofNat k)),
      m < 16 ∧ (Char.ofNat k = hexDigit m ∨ Char.ofNat k = (hexDigit m).toUpper) := by
    decide
  cases symbol with
  | stray b => cases h
  | char c =>
      refine ⟨c, rfl, ?_⟩
      have hbound : c.toNat < 103 := by
        unfold hexDigit? at h
        dsimp only at h
        split at h
        · next hdigit => exact Nat.lt_of_le_of_lt (Char.isDigit_iff_toNat.mp hdigit).2 (by decide)
        · simp only [Bool.and_eq_true, decide_eq_true_eq, Char.le_def, UInt32.le_iff_toNat_le] at h
          split at h
          · next hsmall => exact Nat.lt_of_le_of_lt hsmall.2 (by decide)
          · split at h
            · next hlarge => exact Nat.lt_of_le_of_lt hlarge.2 (by decide)
            · cases h
      have hdigit := hall c.toNat hbound n
      rw [Char.ofNat_toNat] at hdigit
      exact hdigit h

theorem exists_of_fourDigits {n : Nat} (h : fourDigits cs = .ok (n, rest)) :
    ∃ ds, FourDigits n ds ∧ cs = symbols ds ++ rest := by
  unfold fourDigits at h
  dsimp only at h
  split at h
  · split at h
    · next ha hb hc hd =>
      obtain ⟨a, rfl, ha'⟩ := isHexDigit_of_hexDigit? ha
      obtain ⟨b, rfl, hb'⟩ := isHexDigit_of_hexDigit? hb
      obtain ⟨c, rfl, hc'⟩ := isHexDigit_of_hexDigit? hc
      obtain ⟨d, rfl, hd'⟩ := isHexDigit_of_hexDigit? hd
      cases h
      exact ⟨[a, b, c, d], .mk ha' hb' hc' hd', rfl⟩
    · split at h <;> cases h
  · split at h <;> cases h

theorem FourDigits.lt {n : Nat} {ds : List Char} (h : FourDigits n ds) : n < 0x10000 := by
  obtain ⟨⟨ha, -⟩, ⟨hb, -⟩, ⟨hc, -⟩, ⟨hd, -⟩⟩ := h
  omega

/-! ## Escapes -/

/-- What is no half of a pair is the number of a character. -/
theorem toNat_ofNat {n : Nat} (h : n < 0xD800 ∨ 0xDFFF < n ∧ n < 0x110000) :
    (Char.ofNat n).toNat = n := by
  have hvalid : n.isValidChar := h
  rw [Char.ofNat, dif_pos hvalid]
  rfl

theorem exists_of_numberedEscape {c : Char} (h : numberedEscape cs = .ok (c, rest)) :
    ∃ spelling, Spelled c ('\\' :: 'u' :: spelling) ∧ cs = symbols spelling ++ rest := by
  unfold numberedEscape at h
  split at h
  · cases h
  · next high after hhigh =>
    obtain ⟨front, hfront, rfl⟩ := exists_of_fourDigits hhigh
    have hbound := hfront.lt
    split at h
    · cases h
    · next hnotlow =>
      split at h
      · next hhalf =>
        simp only [Bool.and_eq_true, decide_eq_true_eq] at hhalf
        split at h
        · cases h
        · cases h
        · split at h
          · cases h
          · next low behind hlow =>
            obtain ⟨back, hback, rfl⟩ := exists_of_fourDigits hlow
            split at h
            · next hlowhalf =>
              simp only [Bool.and_eq_true, decide_eq_true_eq] at hlowhalf
              obtain ⟨rfl, rfl⟩ := Prod.mk.inj (Except.ok.inj h)
              obtain ⟨n, hn⟩ : ∃ n, 0x10000 + (high - 0xD800) * 1024 + (low - 0xDC00) = n :=
                ⟨_, rfl⟩
              have hnumber : (Char.ofNat n).toNat = n := toNat_ofNat (by omega)
              have hplane : 0x10000 ≤ (Char.ofNat n).toNat := by omega
              have hhigh : 0xD800 + ((Char.ofNat n).toNat - 0x10000) / 1024 = high := by omega
              have hlow : 0xDC00 + ((Char.ofNat n).toNat - 0x10000) % 1024 = low := by omega
              refine ⟨front ++ '\\' :: 'u' :: back, ?_, by simp⟩
              rw [hn]
              exact .pair hplane (hhigh.symm ▸ hfront) (hlow.symm ▸ hback)
            · cases h
        · cases h
        · cases h
      · next hother =>
        cases h
        simp only [Bool.and_eq_true, decide_eq_true_eq] at hnotlow hother
        have hnumber : (Char.ofNat high).toNat = high := toNat_ofNat (by omega)
        exact ⟨front, .number (hnumber.symm ▸ hfront), rfl⟩

/-- **An escape that is read is a spelling.** -/
theorem exists_of_escape {c : Char} (h : escape cs = .ok (c, rest)) :
    ∃ spelling, Spelled c ('\\' :: spelling) ∧ cs = symbols spelling ++ rest := by
  cases cs with
  | nil => cases h
  | cons symbol cs =>
      have hshort : ∀ letter d, (letter, d) ∈ ('/', '/') :: shortEscapes →
          Except.ok (d, cs) = (Except.ok (c, rest) : Except Failure (Char × Input)) →
            ∃ spelling, Spelled c ('\\' :: spelling) ∧
              .char letter :: cs = symbols spelling ++ rest := by
        intro letter d hmem heq
        cases heq
        exact ⟨[letter], .short hmem, rfl⟩
      unfold escape at h
      dsimp only at h
      split at h
      · exact hshort _ _ (by decide) h
      · exact hshort _ _ (by decide) h
      · exact hshort _ _ (by decide) h
      · exact hshort _ _ (by decide) h
      · exact hshort _ _ (by decide) h
      · exact hshort _ _ (by decide) h
      · exact hshort _ _ (by decide) h
      · exact hshort _ _ (by decide) h
      · obtain ⟨spelling, hspelled, rfl⟩ := exists_of_numberedEscape h
        exact ⟨'u' :: spelling, hspelled, rfl⟩
      · cases h

/-! ## Strings -/

theorem exists_of_stringBody {fuel : Nat} {x : List Char}
    (h : stringBody fuel cs = .ok ((x, none), rest)) :
    ∃ body, SpelledAll x body ∧ cs = symbols body ++ .char '"' :: rest := by
  induction fuel generalizing cs x with
  | zero => cases h
  | succ fuel ih =>
      have hcons : ∀ {c : Char} {spelling : List Char} {after : Input}, Spelled c spelling →
          (stringBody fuel after).map (fun p => ((c :: p.1.1, p.1.2), p.2)) =
            .ok ((x, none), rest) →
          ∃ body, SpelledAll x body ∧
            symbols spelling ++ after = symbols body ++ .char '"' :: rest := by
        intro c spelling after hspelled hmap
        obtain ⟨⟨⟨chars, stray⟩, behind⟩, hread, heq⟩ := exists_ok_of_map hmap
        cases heq
        obtain ⟨body, hbody, rfl⟩ := ih hread
        exact ⟨spelling ++ body, .cons hspelled hbody, by simp⟩
      unfold stringBody at h
      split at h
      · cases h
      · obtain ⟨⟨⟨chars, stray⟩, behind⟩, -, heq⟩ := exists_ok_of_map h
        cases heq
      · next c cs =>
        split at h
        · next hquote =>
          subst hquote
          cases h
          exact ⟨[], .nil, rfl⟩
        · next hquote =>
          split at h
          · next hback =>
            subst hback
            split at h
            · cases h
            · next d after hescape =>
              obtain ⟨spelling, hspelled, rfl⟩ := exists_of_escape hescape
              exact hcons hspelled h
          · next hback =>
            split at h
            · cases h
            · next hcontrol => exact hcons (.plain hquote hback (Nat.not_lt.mp hcontrol)) h

/-- **What a string is read from**: a spelling of it, and the closing mark. -/
theorem string_eq_ok_iff {x : String} :
    string cs = .ok (x, rest) ↔
      ∃ body, SpelledAll x.toList body ∧ cs = symbols body ++ .char '"' :: rest := by
  constructor
  · intro h
    unfold string at h
    split at h
    · cases h
    · cases h
    · next hread =>
      cases h
      rw [String.toList_ofList]
      exact exists_of_stringBody hread
  · rintro ⟨body, hbody, rfl⟩
    exact string_spelledAll hbody rest

end Expectation.Json
