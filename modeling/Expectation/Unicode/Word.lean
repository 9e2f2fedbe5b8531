import Expectation.Unicode.Category
import Expectation.Unicode.Property
import Expectation.Text.Blank

/-!
# Digits and word characters

The three classes of characters that patterns use most. Decimal digits come in
runs of ten, one run for each way of writing numbers, so the class is given by
the zeros alone.
-/

namespace Expectation.Unicode

/-- The code points of the zeros. -/
def zeros : List Nat := [
  0x30, 0x660, 0x6F0, 0x7C0, 0x966, 0x9E6, 0xA66, 0xAE6, 0xB66, 0xBE6, 0xC66, 0xCE6, 0xD66,
  0xDE6, 0xE50, 0xED0, 0xF20, 0x1040, 0x1090, 0x17E0, 0x1810, 0x1946, 0x19D0, 0x1A80, 0x1A90,
  0x1B50, 0x1BB0, 0x1C40, 0x1C50, 0xA620, 0xA8D0, 0xA900, 0xA9D0, 0xA9F0, 0xAA50, 0xABF0,
  0xFF10, 0x104A0, 0x10D30, 0x10D40, 0x11066, 0x110F0, 0x11136, 0x111D0, 0x112F0, 0x11450,
  0x114D0, 0x11650, 0x116C0, 0x116D0, 0x116DA, 0x11730, 0x118E0, 0x11950, 0x11BF0, 0x11C50,
  0x11D50, 0x11DA0, 0x11F50, 0x16130, 0x16A60, 0x16AC0, 0x16B50, 0x16D70, 0x1CCF0,
  0x1D7CE, 0x1D7D8, 0x1D7E2, 0x1D7EC, 0x1D7F6, 0x1E140, 0x1E2F0, 0x1E4F0, 0x1E5F1, 0x1E950,
  0x1FBF0]

/-- A decimal digit: one of the ten characters from a zero on. -/
def isDecimalDigit (c : Char) : Bool :=
  zeros.any fun z => z ≤ c.toNat && c.toNat < z + 10

/-- The ranges of the property `Alphabetic`. -/
def alphabeticRanges : Array (Nat × Nat) :=
  rangesNamed properties "alphabetic"

/-- The ranges of the marks, by kind. -/
def markRanges : List (Array (Nat × Nat)) :=
  ["mn", "mc", "me"].map (rangesNamed categories)

/-- The ranges of the numbers, by kind. -/
def numberRanges : List (Array (Nat × Nat)) :=
  ["nd", "nl", "no"].map (rangesNamed categories)

/-- The ranges of the punctuation that joins words. -/
def connectorRanges : Array (Nat × Nat) :=
  rangesNamed categories "pc"

/-- A letter in the widest sense: with the property `Alphabetic`. -/
def isAlphabetic (c : Char) : Bool :=
  inRanges alphabeticRanges c

/-- A letter, or a number of any kind, decimal or not. -/
def isAlphanumeric (c : Char) : Bool :=
  isAlphabetic c || numberRanges.any (inRanges · c)

/-- A character of a word: a letter, a mark, a decimal digit, a connector, or
one of the two invisible characters that control joining. -/
def isWordChar (c : Char) : Bool :=
  isAlphabetic c || markRanges.any (inRanges · c) || isDecimalDigit c ||
    inRanges connectorRanges c || c.toNat == 0x200C || c.toNat == 0x200D

/-- The ranges of the decimal digits. -/
def decimalDigitRanges : List (Nat × Nat) :=
  zeros.map fun z => (z, z + 9)

/-- The ranges of the word characters, kind by kind. -/
def wordRanges : List (Nat × Nat) :=
  alphabeticRanges.toList ++ markRanges.flatMap Array.toList ++ decimalDigitRanges ++
    connectorRanges.toList ++ [(0x200C, 0x200D)]

/-- A word character below 128. -/
def isAsciiWordChar (c : Char) : Bool :=
  c.isAlphanum || c == '_'

end Expectation.Unicode
