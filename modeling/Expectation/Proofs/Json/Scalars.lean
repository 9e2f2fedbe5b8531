import Expectation.Json.Printing
import Expectation.Json.Reading
import Expectation.Proofs.Json.Shape
import Expectation.Proofs.Json.Spelling
import Expectation.Proofs.Text.Digits

/-!
# Reading scalars back

A scalar is written as a word, as digits or as a quoted string, and the reader
takes exactly that text off the front of its input.  A number has no mark at
its end, so what follows must not look like more of it; in a text over several
lines that is a comma or the end of the line.

## Main results

* `string_spelledAll`: quoted strings are read from every spelling.
* `number_toDigits`: the digits of an integer are read as the integer.
* `valueWith_scalarText`: so is every scalar that is no floating-point number.
-/

namespace Expectation.Json

/-- The symbols of a text. -/
def symbols (cs : List Char) : Input := cs.map .char

@[simp] theorem symbols_nil : symbols [] = [] := rfl

@[simp] theorem symbols_cons (c : Char) (cs : List Char) :
    symbols (c :: cs) = .char c :: symbols cs := rfl

@[simp] theorem symbols_append (a b : List Char) : symbols (a ++ b) = symbols a ++ symbols b :=
  List.map_append

/-! ## Words -/

theorem word_symbols (cs : List Char) (rest : Input) : word cs (symbols cs ++ rest) = .ok rest := by
  induction cs with
  | nil => cases rest <;> rfl
  | cons c cs ih =>
      rw [symbols_cons, List.cons_append, word, if_pos rfl, ih]

/-! ## Strings -/

theorem hexDigit?_of_isHexDigit {c : Char} {n : Nat} (h : IsHexDigit c n) :
    hexDigit? (.char c) = some n := by
  have hall : ∀ i : Fin 16, hexDigit? (.char (hexDigit i)) = some i.val ∧
      hexDigit? (.char (hexDigit i).toUpper) = some i.val := by decide
  obtain ⟨hlt, rfl | rfl⟩ := h
  · exact (hall ⟨n, hlt⟩).1
  · exact (hall ⟨n, hlt⟩).2

theorem fourDigits_symbols {n : Nat} {ds : List Char} (h : FourDigits n ds) (rest : Input) :
    fourDigits (symbols ds ++ rest) = .ok (n, rest) := by
  obtain ⟨ha, hb, hc, hd⟩ := h
  simp [fourDigits, hexDigit?_of_isHexDigit ha, hexDigit?_of_isHexDigit hb,
    hexDigit?_of_isHexDigit hc, hexDigit?_of_isHexDigit hd]

theorem numberedEscape_number {c : Char} {ds : List Char} (h : FourDigits c.toNat ds)
    (rest : Input) : numberedEscape (symbols ds ++ rest) = .ok (c, rest) := by
  obtain ⟨hfront, hback⟩ := not_half c
  simp [numberedEscape, fourDigits_symbols h, hfront, hback, Char.ofNat_toNat]

theorem numberedEscape_pair {c : Char} {high low : List Char} (hplane : 0x10000 ≤ c.toNat)
    (hhigh : FourDigits (0xD800 + (c.toNat - 0x10000) / 1024) high)
    (hlow : FourDigits (0xDC00 + (c.toNat - 0x10000) % 1024) low) (rest : Input) :
    numberedEscape (symbols high ++ .char '\\' :: .char 'u' :: (symbols low ++ rest)) =
      .ok (c, rest) := by
  obtain ⟨hfront, hback, hvalue⟩ := halves hplane
  simp [numberedEscape, fourDigits_symbols hhigh, fourDigits_symbols hlow,
    Nat.not_le.mpr hfront, hfront, hback, hvalue, Char.ofNat_toNat]

/-- A spelling is read as its character. -/
theorem stringBody_spelled {c : Char} {spelling : List Char} (h : Spelled c spelling)
    (fuel : Nat) (rest : Input) :
    stringBody (fuel + 1) (symbols spelling ++ rest) =
      (stringBody fuel rest).map fun ((chars, stray), after) =>
        ((c :: chars, stray), after) := by
  cases h with
  | plain hquote hback hplain =>
      have hcontrol : ¬ c.toNat < 0x20 := Nat.not_lt.mpr hplain
      simp [stringBody, hquote, hback, hcontrol]
  | @short letter c hmem =>
      have hescape : escape (.char letter :: rest) = .ok (c, rest) := by
        simp only [shortEscapes, List.mem_cons, Prod.mk.injEq, List.not_mem_nil,
          or_false] at hmem
        rcases hmem with ⟨rfl, rfl⟩ | ⟨rfl, rfl⟩ | ⟨rfl, rfl⟩ | ⟨rfl, rfl⟩ | ⟨rfl, rfl⟩ |
          ⟨rfl, rfl⟩ | ⟨rfl, rfl⟩ | ⟨rfl, rfl⟩ <;> rfl
      simp [stringBody, hescape]
  | number h => simp [stringBody, escape, numberedEscape_number h]
  | pair hplane hhigh hlow => simp [stringBody, escape, numberedEscape_pair hplane hhigh hlow]

theorem stringBody_spelledAll {fuel : Nat} {cs body : List Char} (h : SpelledAll cs body)
    (rest : Input) (hfuel : cs.length < fuel) :
    stringBody fuel (symbols body ++ .char '"' :: rest) = .ok ((cs, none), rest) := by
  induction h generalizing fuel with
  | nil =>
      obtain ⟨fuel, rfl⟩ : ∃ n, fuel = n + 1 := ⟨fuel - 1, by omega⟩
      rfl
  | @cons c cs spelling body hc h ih =>
      obtain ⟨fuel, rfl⟩ : ∃ n, fuel = n + 1 := ⟨fuel - 1, by omega⟩
      have hrest : cs.length < fuel := by
        rw [List.length_cons] at hfuel
        omega
      rw [symbols_append, List.append_assoc, stringBody_spelled hc, ih hrest]
      rfl

/-- **Strings are read from every spelling.** -/
theorem string_spelledAll {s : String} {body : List Char} (h : SpelledAll s.toList body)
    (rest : Input) : string (symbols body ++ .char '"' :: rest) = .ok (s, rest) := by
  have hfuel : s.toList.length < (symbols body ++ .char '"' :: rest).length + 1 := by
    have hlength := h.length_le
    rw [List.length_append, symbols, List.length_map]
    omega
  rw [string, stringBody_spelledAll h rest hfuel]
  simp [String.ofList_toList]

/-- Quoted strings are read back. -/
theorem string_quote (s : String) (rest : Input) :
    string (symbols (escapeChars s.toList) ++ .char '"' :: rest) = .ok (s, rest) :=
  string_spelledAll (spelledAll_escapeChars s.toList) rest

/-! ## Numbers -/

/-- What follows a value in a text over several lines: a comma, the end of the
line, or nothing. -/
def Ends (rest : Input) : Prop :=
  ∀ s ∈ rest.head?, s = .char ',' ∨ s = .char '\n'

theorem digits_of_ends {rest : Input} (h : Ends rest) : digits rest = ([], rest) := by
  cases rest with
  | nil => rfl
  | cons s rest =>
      rcases h s rfl with rfl | rfl
      · rfl
      · rfl

theorem digits_symbols {cs : List Char} (hcs : ∀ c ∈ cs, c.isDigit = true) {rest : Input}
    (hrest : Ends rest) :
    digits (symbols cs ++ rest) = (cs.map fun c => c.toNat - 48, rest) := by
  induction cs with
  | nil => exact digits_of_ends hrest
  | cons c cs ih =>
      have hc : decimalDigit? (.char c) = some (c.toNat - 48) := by
        simp [decimalDigit?, hcs c List.mem_cons_self]
      have htail := ih fun d hd => hcs d (List.mem_cons_of_mem c hd)
      simp [digits, hc, htail]

/-- Digits are appended to a number as long as the outcome fits. -/
theorem appendDigits_ofDigitChars {n : Nat} {cs : List Char}
    (h : Nat.ofDigitChars 10 cs n < Nat.pow 2 64) :
    appendDigits n (cs.map fun c => c.toNat - 48) = (Nat.ofDigitChars 10 cs n, 0) := by
  induction cs generalizing n with
  | nil => rfl
  | cons c cs ih =>
      have hstep : Nat.ofDigitChars 10 (c :: cs) n =
          Nat.ofDigitChars 10 cs (n * 10 + (c.toNat - 48)) := by
        rw [Nat.ofDigitChars_cons, Nat.mul_comm 10 n]
        rfl
      have hle : n * 10 + (c.toNat - 48) ≤
          Nat.ofDigitChars 10 cs (n * 10 + (c.toNat - 48)) := by
        rw [Nat.ofDigitChars_eq_ofDigitChars_zero]
        exact Nat.le_add_right_of_le (Nat.le_mul_of_pos_left _ (Nat.pow_pos (by decide)))
      rw [hstep] at h ⊢
      rw [List.map_cons, appendDigits, if_pos (Nat.lt_of_le_of_lt hle h), ih h]

/-- **The digits of an integer are read as the integer.** -/
theorem number_toDigits (negative : Bool) {n : Nat} (hn : n < Nat.pow 2 64) {rest : Input}
    (hrest : Ends rest) :
    number negative (symbols (Nat.toDigits 10 n) ++ rest) =
      .ok (integerValue negative n, rest) := by
  have hdigits := digits_symbols (fun c hc => Text.isDigit_of_mem_toDigits (n := n) hc) hrest
  have hspelled : Nat.ofDigitChars 10 (Nat.toDigits 10 n) 0 = n := Nat.ofDigitChars_ten_toDigits
  have hvalue := appendDigits_ofDigitChars (hspelled.symm ▸ hn)
  rw [hspelled] at hvalue
  obtain ⟨c, cs, hcs⟩ := List.exists_cons_of_ne_nil (Nat.toDigits_ne_nil (n := n) (b := 10))
  rw [hcs, List.map_cons] at hdigits hvalue
  have hfirst : ¬ ((c.toNat - 48 = 0) && !(cs.map fun c => c.toNat - 48).isEmpty) = true := by
    by_cases hzero : n = 0
    · subst hzero
      obtain ⟨-, rfl⟩ := List.cons.inj ((Nat.toDigits_zero 10).symm.trans hcs)
      simp
    · have hhead := Text.head?_toDigits_ne_zero hzero
      rw [hcs] at hhead
      have hbound := (Char.isDigit_iff_toNat.mp (Text.isDigit_of_mem_toDigits
        (hcs ▸ List.mem_cons_self : c ∈ Nat.toDigits 10 n))).1
      have hne : c.toNat ≠ '0'.toNat := fun heq =>
        hhead (congrArg some (Char.toNat_inj.mp heq))
      have hpositive : c.toNat - 48 ≠ 0 := by
        have hvalue : '0'.toNat = 48 := rfl
        omega
      simp [hpositive]
  rw [hcs, number, hdigits]
  simp only [hvalue, if_neg hfirst]
  cases rest with
  | nil => rfl
  | cons s rest =>
      rcases hrest s rfl with rfl | rfl
      · rfl
      · rfl

/-! ## Scalars -/

/-- A leaf that its text gives back: no matcher, no floating-point number, and
integers in the form in which they are read. -/
def Value.Readable : Value → Prop
  | .float _ | .matcher _ => False
  | .nat n => Nat.pow 2 63 ≤ n.toNat
  | _ => True

theorem isSpace_of_isDigit {c : Char} (hc : c.isDigit = true) : isSpace (.char c) = false := by
  have hall : ∀ d ∈ [' ', '\n', '\t', '\r'], d.isDigit = false :=
    List.all_iff_forall_prop.mp (by decide)
  have hne : c ∉ [' ', '\n', '\t', '\r'] := fun hmem => by simp [hall c hmem] at hc
  simpa [isSpace, and_assoc] using hne

theorem valueWith_of_isDigit (part : Option (Reader Value)) {c : Char} (hc : c.isDigit = true)
    (rest : Input) : valueWith part (.char c :: rest) = number false (.char c :: rest) := by
  have hskip : skipSpace (.char c :: rest) = .char c :: rest := by
    rw [skipSpace, List.dropWhile_cons_of_neg (by simp [isSpace_of_isDigit hc])]
  have hother : ∀ d ∈ ['n', 't', 'f', '-', '"', '[', '\x7B'], c ≠ d := by
    rintro d hd rfl
    have hall : ∀ d ∈ ['n', 't', 'f', '-', '"', '[', '\x7B'], d.isDigit = false :=
      List.all_iff_forall_prop.mp (by decide)
    simp [hall c hd] at hc
  simp only [List.forall_mem_cons, List.not_mem_nil, false_implies, implies_true] at hother
  simp [valueWith, hskip, hother, hc]

/-- The digits of a number without a sign are a value. -/
theorem valueWith_toDigits (part : Option (Reader Value)) {n : Nat} (hn : n < Nat.pow 2 64)
    {rest : Input} (hrest : Ends rest) :
    valueWith part (symbols (Nat.toDigits 10 n) ++ rest) = .ok (integerValue false n, rest) := by
  have hnumber := number_toDigits false hn hrest
  obtain ⟨c, cs, hcs⟩ := List.exists_cons_of_ne_nil (Nat.toDigits_ne_nil (n := n) (b := 10))
  have hc : c.isDigit = true :=
    Text.isDigit_of_mem_toDigits (hcs ▸ List.mem_cons_self : c ∈ Nat.toDigits 10 n)
  rw [hcs, symbols_cons, List.cons_append] at hnumber ⊢
  rw [valueWith_of_isDigit part hc, hnumber]

theorem integerValue_of_nonneg {i : Int64} (h : 0 ≤ i.toInt) :
    integerValue false i.toInt.toNat = .int i := by
  have hhigh := i.toInt_lt
  have hlt : i.toInt.toNat < Nat.pow 2 63 := by
    show i.toInt.toNat < 2 ^ 63
    omega
  have hback : Int64.ofInt (i.toInt.toNat : Int) = i := by
    rw [Int.toNat_of_nonneg h, Int64.ofInt_toInt]
  rw [integerValue, if_neg Bool.false_ne_true, if_pos hlt, hback]

theorem integerValue_of_neg {i : Int64} (h : i.toInt < 0) :
    integerValue true (-i.toInt).toNat = .int i := by
  have hlow := i.le_toInt
  have hne : (-i.toInt).toNat ≠ 0 := by omega
  have hle : (-i.toInt).toNat ≤ Nat.pow 2 63 := by
    show (-i.toInt).toNat ≤ 2 ^ 63
    omega
  have hback : Int64.ofInt (-((-i.toInt).toNat : Int)) = i := by
    rw [Int.toNat_of_nonneg (by omega), Int.neg_neg, Int64.ofInt_toInt]
  rw [integerValue, if_pos rfl, if_neg hne, if_pos hle, hback]

theorem integerValue_of_large {n : UInt64} (h : Nat.pow 2 63 ≤ n.toNat) :
    integerValue false n.toNat = .nat n := by
  rw [integerValue, if_neg Bool.false_ne_true, if_neg (Nat.not_lt.mpr h), UInt64.ofNat_toNat]

/-- **Scalars are read back.** -/
theorem valueWith_scalarText (part : Option (Reader Value)) {v : Value}
    (hleaf : v.isLeaf = true) (h : v.Readable) {rest : Input} (hrest : Ends rest) :
    valueWith part (symbols (scalarText v).toList ++ rest) = .ok (v, rest) := by
  cases v with
  | null =>
      show (word ['u', 'l', 'l'] (symbols ['u', 'l', 'l'] ++ rest)).map _ = _
      rw [word_symbols]
      rfl
  | bool b =>
      cases b with
      | true =>
          show (word ['r', 'u', 'e'] (symbols ['r', 'u', 'e'] ++ rest)).map _ = _
          rw [word_symbols]
          rfl
      | false =>
          show (word ['a', 'l', 's', 'e'] (symbols ['a', 'l', 's', 'e'] ++ rest)).map _ = _
          rw [word_symbols]
          rfl
  | int i =>
      have hlow := i.le_toInt
      have hhigh := i.toInt_lt
      show valueWith part (symbols (toString i.toInt).toList ++ rest) = _
      rw [Text.toList_toString_int]
      split
      · next hsign =>
          have hbound : i.toInt.toNat < 2 ^ 64 := by omega
          rw [valueWith_toDigits part hbound hrest, integerValue_of_nonneg hsign]
      · next hsign =>
          have hbound : (-i.toInt).toNat < 2 ^ 64 := by omega
          show number true (symbols (Nat.toDigits 10 (-i.toInt).toNat) ++ rest) = _
          rw [number_toDigits true hbound hrest, integerValue_of_neg (Int.not_le.mp hsign)]
  | nat n =>
      show valueWith part (symbols (toString n.toNat).toList ++ rest) = _
      rw [Text.toList_toString_nat, valueWith_toDigits part n.toNat_lt hrest,
        integerValue_of_large h]
  | float x => exact absurd h id
  | string s =>
      have htext : symbols (scalarText (.string s)).toList ++ rest =
          .char '"' :: (symbols (escapeChars s.toList) ++ .char '"' :: rest) := by
        rw [scalarText, toList_quote]
        simp
      rw [htext]
      show (string (symbols (escapeChars s.toList) ++ .char '"' :: rest)).map _ = _
      rw [string_quote]
      rfl
  | matcher m => exact absurd h id
  | array _ | object _ => exact absurd hleaf (by simp)

end Expectation.Json
