import Expectation.Text.Utf8

/-!
# Reading encoded text

Text that is encoded as UTF-8 is read back character by character, so a reader
of bytes sees what a reader of characters sees.

A character is encoded by the digits of its number in base sixty-four, with the
length of the sequence in the first byte.  The reader adds the digits up again.
The second byte has a narrower range after some first bytes; that keeps out
longer encodings than necessary, and the surrogates, which are no characters.

## Main results

* `decodeFirst_encoded`: the reader takes one encoded character from the front.
* `symbols_utf8`, `decode_utf8`: the symbols and the text of encoded text.
-/

namespace Expectation.Text

/-! ## Bytes by number -/

theorem isContinuation_iff (b : UInt8) :
    isContinuation b = true ↔ 128 ≤ b.toNat ∧ b.toNat ≤ 191 := by
  simp [isContinuation, UInt8.le_iff_toNat_le]

theorem sequenceLength_eq (b : UInt8) :
    sequenceLength b =
      if b.toNat < 128 then 1
      else if 194 ≤ b.toNat ∧ b.toNat ≤ 223 then 2
      else if 224 ≤ b.toNat ∧ b.toNat ≤ 239 then 3
      else if 240 ≤ b.toNat ∧ b.toNat ≤ 244 then 4
      else 0 := by
  simp [sequenceLength, UInt8.lt_iff_toNat_lt, UInt8.le_iff_toNat_le]

/-- A byte is in the range for the second one. -/
def FitsSecond (first b : UInt8) : Prop :=
  (secondByteRange first).1 ≤ b ∧ b ≤ (secondByteRange first).2

/-- The range is that of all continuing bytes, with four exceptions. -/
theorem fitsSecond_of {first b : UInt8} (hlow : 128 ≤ b.toNat) (hhigh : b.toNat ≤ 191)
    (h224 : first.toNat = 224 → 160 ≤ b.toNat) (h237 : first.toNat = 237 → b.toNat ≤ 159)
    (h240 : first.toNat = 240 → 144 ≤ b.toNat) (h244 : first.toNat = 244 → b.toNat ≤ 143) :
    FitsSecond first b := by
  have hfirst : ∀ n : UInt8, first = n ↔ first.toNat = n.toNat := fun n => UInt8.toNat_inj.symm
  unfold FitsSecond secondByteRange
  simp only [hfirst]
  split
  · next h => exact ⟨UInt8.le_iff_toNat_le.mpr (h224 h), UInt8.le_iff_toNat_le.mpr hhigh⟩
  · split
    · next h => exact ⟨UInt8.le_iff_toNat_le.mpr hlow, UInt8.le_iff_toNat_le.mpr (h237 h)⟩
    · split
      · next h => exact ⟨UInt8.le_iff_toNat_le.mpr (h240 h), UInt8.le_iff_toNat_le.mpr hhigh⟩
      · split
        · next h => exact ⟨UInt8.le_iff_toNat_le.mpr hlow, UInt8.le_iff_toNat_le.mpr (h244 h)⟩
        · exact ⟨UInt8.le_iff_toNat_le.mpr hlow, UInt8.le_iff_toNat_le.mpr hhigh⟩

/-! ## One sequence -/

theorem decodeFirst_one {a : UInt8} (h : sequenceLength a = 1) (rest : List UInt8) :
    decodeFirst a rest = .ok (Char.ofNat a.toNat, rest) := by
  simp [decodeFirst, h]

theorem decodeFirst_two {a b : UInt8} (h : sequenceLength a = 2)
    (hb : isContinuation b = true) (rest : List UInt8) :
    decodeFirst a (b :: rest) = .ok (Char.ofNat (addBits (a.toNat - 0xC0) b), rest) := by
  simp [decodeFirst, h, hb]

theorem decodeFirst_three {a b c : UInt8} (h : sequenceLength a = 3) (hb : FitsSecond a b)
    (hc : isContinuation c = true) (rest : List UInt8) :
    decodeFirst a (b :: c :: rest) =
      .ok (Char.ofNat (addBits (addBits (a.toNat - 0xE0) b) c), rest) := by
  simp [decodeFirst, h, hb.1, hb.2, hc]

theorem decodeFirst_four {a b c d : UInt8} (h : sequenceLength a = 4) (hb : FitsSecond a b)
    (hc : isContinuation c = true) (hd : isContinuation d = true) (rest : List UInt8) :
    decodeFirst a (b :: c :: d :: rest) =
      .ok (Char.ofNat (addBits (addBits (addBits (a.toNat - 0xF0) b) c) d), rest) := by
  simp [decodeFirst, h, hb.1, hb.2, hc, hd]

/-- The number of a character is none of a surrogate. -/
theorem char_toNat_cases (c : Char) :
    c.val.toNat < 55296 ∨ 57343 < c.val.toNat ∧ c.val.toNat < 1114112 :=
  c.valid

/-- A digit in base sixty-four as a continuing byte. -/
theorem toNat_continuation (n : Nat) : (UInt8.ofNat (n % 64 + 128)).toNat = n % 64 + 128 :=
  UInt8.toNat_ofNat_of_lt' (show _ < 256 by omega)

theorem isContinuation_digit (n : Nat) : isContinuation (UInt8.ofNat (n % 64 + 128)) = true := by
  rw [isContinuation_iff, toNat_continuation]
  omega

/-- A number of two digits. -/
theorem decodeFirst_encoded_two {v : Nat} (hlow : 127 < v) (hhigh : v ≤ 2047)
    (rest : List UInt8) :
    decodeFirst (UInt8.ofNat (v / 64 % 32 + 192)) (UInt8.ofNat (v % 64 + 128) :: rest) =
      .ok (Char.ofNat v, rest) := by
  have ha : (UInt8.ofNat (v / 64 % 32 + 192)).toNat = v / 64 % 32 + 192 :=
    UInt8.toNat_ofNat_of_lt' (show _ < 256 by omega)
  have hb := toNat_continuation v
  have hlength : sequenceLength (UInt8.ofNat (v / 64 % 32 + 192)) = 2 := by
    rw [sequenceLength_eq, ha, if_neg (by omega), if_pos (by omega)]
  have hnumber : addBits ((UInt8.ofNat (v / 64 % 32 + 192)).toNat - 0xC0)
      (UInt8.ofNat (v % 64 + 128)) = v := by
    unfold addBits
    omega
  rw [decodeFirst_two hlength (isContinuation_digit v), hnumber]

/-- A number of three digits. -/
theorem decodeFirst_encoded_three {v : Nat} (hlow : 2047 < v) (hhigh : v ≤ 65535)
    (hvalid : v < 55296 ∨ 57343 < v) (rest : List UInt8) :
    decodeFirst (UInt8.ofNat (v / 4096 % 16 + 224))
        (UInt8.ofNat (v / 64 % 64 + 128) :: UInt8.ofNat (v % 64 + 128) :: rest) =
      .ok (Char.ofNat v, rest) := by
  have ha : (UInt8.ofNat (v / 4096 % 16 + 224)).toNat = v / 4096 % 16 + 224 :=
    UInt8.toNat_ofNat_of_lt' (show _ < 256 by omega)
  have hb := toNat_continuation (v / 64)
  have hc := toNat_continuation v
  have hlength : sequenceLength (UInt8.ofNat (v / 4096 % 16 + 224)) = 3 := by
    rw [sequenceLength_eq, ha, if_neg (by omega), if_neg (by omega), if_pos (by omega)]
  have hsecond : FitsSecond (UInt8.ofNat (v / 4096 % 16 + 224))
      (UInt8.ofNat (v / 64 % 64 + 128)) := by
    apply fitsSecond_of <;> omega
  have hnumber : addBits (addBits ((UInt8.ofNat (v / 4096 % 16 + 224)).toNat - 0xE0)
      (UInt8.ofNat (v / 64 % 64 + 128))) (UInt8.ofNat (v % 64 + 128)) = v := by
    unfold addBits
    omega
  rw [decodeFirst_three hlength hsecond (isContinuation_digit v), hnumber]

/-- A number of four digits. -/
theorem decodeFirst_encoded_four {v : Nat} (hlow : 65535 < v) (hhigh : v < 1114112)
    (rest : List UInt8) :
    decodeFirst (UInt8.ofNat (v / 262144 % 8 + 240))
        (UInt8.ofNat (v / 4096 % 64 + 128) :: UInt8.ofNat (v / 64 % 64 + 128) ::
          UInt8.ofNat (v % 64 + 128) :: rest) =
      .ok (Char.ofNat v, rest) := by
  have ha : (UInt8.ofNat (v / 262144 % 8 + 240)).toNat = v / 262144 % 8 + 240 :=
    UInt8.toNat_ofNat_of_lt' (show _ < 256 by omega)
  have hb := toNat_continuation (v / 4096)
  have hc := toNat_continuation (v / 64)
  have hd := toNat_continuation v
  have hlength : sequenceLength (UInt8.ofNat (v / 262144 % 8 + 240)) = 4 := by
    rw [sequenceLength_eq, ha, if_neg (by omega), if_neg (by omega), if_neg (by omega),
      if_pos (by omega)]
  have hsecond : FitsSecond (UInt8.ofNat (v / 262144 % 8 + 240))
      (UInt8.ofNat (v / 4096 % 64 + 128)) := by
    apply fitsSecond_of <;> omega
  have hnumber : addBits (addBits (addBits
      ((UInt8.ofNat (v / 262144 % 8 + 240)).toNat - 0xF0) (UInt8.ofNat (v / 4096 % 64 + 128)))
      (UInt8.ofNat (v / 64 % 64 + 128))) (UInt8.ofNat (v % 64 + 128)) = v := by
    unfold addBits
    omega
  rw [decodeFirst_four hlength hsecond (isContinuation_digit (v / 64)) (isContinuation_digit v),
    hnumber]

/-- **An encoded character is read back**, whatever follows it. -/
theorem decodeFirst_encoded (c : Char) (rest : List UInt8) :
    ∃ b bs, String.utf8EncodeChar c = b :: bs ∧ decodeFirst b (bs ++ rest) = .ok (c, rest) := by
  have hvalid := char_toNat_cases c
  have hchar : Char.ofNat c.val.toNat = c := Char.ofNat_toNat c
  generalize hv : c.val.toNat = v at hvalid hchar
  unfold String.utf8EncodeChar
  simp only [hv]
  split
  · next h1 =>
    have ha : (UInt8.ofNat v).toNat = v := UInt8.toNat_ofNat_of_lt' (show _ < 256 by omega)
    have hlength : sequenceLength (UInt8.ofNat v) = 1 := by
      rw [sequenceLength_eq, ha, if_pos (by omega)]
    refine ⟨_, _, rfl, ?_⟩
    rw [List.nil_append, decodeFirst_one hlength, ha, hchar]
  · split
    · next h1 h2 =>
      refine ⟨_, _, rfl, (decodeFirst_encoded_two (by omega) h2 rest).trans ?_⟩
      rw [hchar]
    · split
      · next h1 h2 h3 =>
        refine ⟨_, _, rfl, (decodeFirst_encoded_three (by omega) h3 (by omega) rest).trans ?_⟩
        rw [hchar]
      · next h1 h2 h3 =>
        refine ⟨_, _, rfl, (decodeFirst_encoded_four (by omega) (by omega) rest).trans ?_⟩
        rw [hchar]

/-! ## Whole texts -/

/-- The bytes of a text. -/
def utf8 (text : String) : List UInt8 := text.toUTF8.data.toList

theorem utf8_eq (text : String) : utf8 text = text.toList.flatMap String.utf8EncodeChar := by
  show text.toByteArray.data.toList = _
  rw [← String.utf8Encode_toList]
  simp [List.utf8Encode]

/-- The symbols of encoded characters are the characters. -/
theorem symbolsWithin_encoded (cs : List Char) {fuel : Nat}
    (hfuel : (cs.flatMap String.utf8EncodeChar).length ≤ fuel) :
    symbolsWithin fuel (cs.flatMap String.utf8EncodeChar) = cs.map .char := by
  induction cs generalizing fuel with
  | nil => cases fuel <;> rfl
  | cons c cs ih =>
      obtain ⟨b, bs, hencoded, hdecode⟩ := decodeFirst_encoded c (cs.flatMap String.utf8EncodeChar)
      rw [List.flatMap_cons, hencoded, List.cons_append] at hfuel ⊢
      cases fuel with
      | zero => exact absurd hfuel (by simp)
      | succ fuel =>
          have hrest : (cs.flatMap String.utf8EncodeChar).length ≤ fuel := by
            rw [List.length_cons, List.length_append] at hfuel
            omega
          rw [symbolsWithin, hdecode]
          exact congrArg (Symbol.char c :: ·) (ih hrest)

/-- There is no fault in encoded characters. -/
theorem faultWithin_encoded (cs : List Char) (fuel before : Nat) :
    faultWithin fuel before (cs.flatMap String.utf8EncodeChar) = none := by
  induction cs generalizing fuel before with
  | nil => cases fuel <;> rfl
  | cons c cs ih =>
      obtain ⟨b, bs, hencoded, hdecode⟩ := decodeFirst_encoded c (cs.flatMap String.utf8EncodeChar)
      rw [List.flatMap_cons, hencoded, List.cons_append]
      cases fuel with
      | zero => rfl
      | succ fuel =>
          rw [faultWithin, hdecode]
          exact ih fuel _

/-- **The symbols of encoded text** are its characters. -/
theorem symbols_utf8 (text : String) : symbols (utf8 text) = text.toList.map .char := by
  rw [symbols, utf8_eq]
  exact symbolsWithin_encoded text.toList (Nat.le_refl _)

theorem charsOf_map_char (cs : List Char) : charsOf (cs.map .char) = cs := by
  induction cs with
  | nil => rfl
  | cons c cs ih => exact congrArg (c :: ·) ih

/-- **Encoded text is read back.** -/
theorem decode_utf8 (text : String) : decode (utf8 text) = .ok text := by
  have hfault : firstFault? (utf8 text) = none := by
    rw [firstFault?, utf8_eq]
    exact faultWithin_encoded text.toList _ 0
  rw [decode, hfault, symbols_utf8, charsOf_map_char, String.ofList_toList]

end Expectation.Text
