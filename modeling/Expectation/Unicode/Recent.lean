import Expectation.Unicode.Word

/-!
# Characters of the following edition

What a pattern matches follows one edition of the standard. The names of groups
in a pattern and the descriptions of texts already know the characters of the
edition after it. This module lists the characters that came with that edition,
and which of them are letters, numbers, or marks on the character before them.
-/

namespace Expectation.Unicode

/-- The characters that came with the following edition. -/
def recentCharacters : Property :=
  ⟨["recent"],
   ["1ov r1 3k 2r7.e 3.b 15i 251 ojc.1 3 2 t gk2.f ce.1 1j.6 29e.p 12k.2 9.8 y.1 2g5.7",
    "g9.17 5.9 fxz.o 3.o 7z.4 4qq.7 zu.l 2q.36 cg8.2 ce.m g.g 4pc.u 2.l 9.1 34p 4f.3 9i.8",
    "ak.3 1f 4 1m 5 t 5 7f 10zk.5 4mb.b gsj.3bd"]⟩

/-- Those with the property `Alphabetic`. -/
def recentAlphabetic : Property :=
  ⟨["recentalphabetic"],
   ["1ov r1 3k ulu.1 3 2 t j7z.p 12k.2 1f.1 2g5.7 g9.17 fyd.o 3.o 7z.4 4qq.7 zu.l 2q.36",
    "hji.u 2.l 9.1 154r.5 4mb.b gsj.3bd"]⟩

/-- Those that are numbers. -/
def recentNumbers : Property :=
  ⟨["recentnumbers"],
   ["1kgw.9 g7f.2"]⟩

/-- Those that extend the character before them. -/
def recentExtenders : Property :=
  ⟨["recentextenders"],
   ["5an.e 3.b 1c7j.1 2g5 2.2 2 1471 3 8.1 6"]⟩

/-- The ranges of the recent characters. -/
def recentRanges : Array (Nat × Nat) := recentCharacters.ranges

/-- The ranges of the recent letters. -/
def recentAlphabeticRanges : Array (Nat × Nat) := recentAlphabetic.ranges

/-- The ranges of the recent numbers. -/
def recentNumberRanges : Array (Nat × Nat) := recentNumbers.ranges

/-- The ranges of the recent marks. -/
def recentExtenderRanges : Array (Nat × Nat) := recentExtenders.ranges

/-- A letter in the widest sense, a recent one included. -/
def isAlphabeticNow (c : Char) : Bool :=
  isAlphabetic c || inRanges recentAlphabeticRanges c

/-- A letter, or a number of any kind, a recent one included. -/
def isAlphanumericNow (c : Char) : Bool :=
  isAlphanumeric c || inRanges recentAlphabeticRanges c || inRanges recentNumberRanges c

/-- Whether a character has a meaning in the following edition. -/
def isRecent (c : Char) : Bool :=
  inRanges recentRanges c

/-- Whether a recent character extends the character before it. -/
def isRecentExtender (c : Char) : Bool :=
  inRanges recentExtenderRanges c

end Expectation.Unicode
