import Expectation.Unicode.RangeAlgebra

/-!
# Sets of characters as sequences of byte ranges

A program reads bytes, so a set of characters enters it as sequences of ranges
of bytes: a sequence stands for all encodings whose bytes lie in its ranges one
by one. A range of characters is such a sequence if its members have encodings
of one length and all bytes but the first few run through everything that may
stand there. Other ranges are cut where that fails.
-/

namespace Expectation.Regex

/-- A range of bytes. -/
structure ByteRange where
  first : UInt8
  last : UInt8
  deriving DecidableEq, Repr

/-- The ranges of characters with encodings of one length. Two of them have three
bytes, because there are no characters between them. -/
def encodingRanges : List (Nat × Nat) :=
  [(0, 0x7F), (0x80, 0x7FF), (0x800, 0xD7FF), (0xE000, 0xFFFF), (0x10000, 0x10FFFF)]

/-- A range cut into what stands before, in and after the blocks of a size that it
fills. What it fills is cut in the same way by blocks of 64 times the size, for as
many sizes as are given. -/
def cutByBlocks : Nat → Nat → Nat → Nat → List (Nat × Nat)
  | 0, _, first, last => [(first, last)]
  | sizes + 1, size, first, last =>
    if first / size = last / size then [(first, last)]
    else
      let front := (first + size - 1) / size * size
      let back := (last + 1) / size * size
      (if first < front then [(first, front - 1)] else []) ++
        (if front < back then cutByBlocks sizes (64 * size) front (back - 1) else []) ++
        (if back ≤ last then [(back, last)] else [])

/-- The byte ranges between the encodings of two characters. -/
def byteRanges (first last : Nat) : List ByteRange :=
  List.zipWith ByteRange.mk (String.utf8EncodeChar (Char.ofNat first))
    (String.utf8EncodeChar (Char.ofNat last))

/-- The sequences of byte ranges for a set of characters, in ascending order. -/
def byteSequences (ranges : List (Nat × Nat)) : List (List ByteRange) :=
  ranges.flatMap fun (first, last) =>
    (Unicode.clipRanges first last encodingRanges).flatMap fun (first, last) =>
      (if last < 0x80 then [(first, last)] else cutByBlocks 3 64 first last).map fun r =>
        byteRanges r.1 r.2

example : byteSequences [(0x61, 0xFF)] =
    [[⟨0x61, 0x7F⟩], [⟨0xC2, 0xC3⟩, ⟨0x80, 0xBF⟩]] := by decide

end Expectation.Regex
