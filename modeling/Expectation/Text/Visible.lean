import Expectation.Unicode.Recent

/-!
# Strings in descriptions

Where a report describes a text, the text stands in quotation marks and every
character in it can be seen: quotation marks and backslashes are escaped, and a
character that has no shape of its own, or that only changes the one before it,
is given by its number.
-/

namespace Expectation.Text

/-- The ranges of the characters that extend the one before them. -/
def extenderRanges : Array (Nat × Nat) :=
  Unicode.rangesNamed Unicode.properties "graphemeextend"

/-- The ranges of the characters that leave no trace where they are not supported. -/
def ignorableRanges : Array (Nat × Nat) :=
  Unicode.rangesNamed Unicode.properties "defaultignorablecodepoint"

/-- The ranges of the characters without a shape: controls, formats, private ones and
separators. -/
def shapelessRanges : List (Array (Nat × Nat)) :=
  ["cc", "cf", "co", "zl", "zp", "zs"].map (Unicode.rangesNamed Unicode.categories)

/-- The ranges of the code points without a meaning. -/
def unassignedRanges : Array (Nat × Nat) :=
  Unicode.rangesNamed Unicode.categories "cn"

/-- Whether a character only changes the one before it. The two half-width sound marks
extend the character before them and take a place of their own all the same. -/
def isExtender (c : Char) : Bool :=
  (Unicode.inRanges extenderRanges c || Unicode.isRecentExtender c) &&
    c != '\uFF9E' && c != '\uFF9F'

/-- Whether a character has no shape of its own. -/
def isShapeless (c : Char) : Bool :=
  shapelessRanges.any (Unicode.inRanges · c) || Unicode.inRanges ignorableRanges c ||
    (Unicode.inRanges unassignedRanges c && !Unicode.isRecent c)

/-- Whether a character stands for itself in a description. -/
def isVisible (c : Char) : Bool :=
  c == ' ' || !(isExtender c || isShapeless c)

/-- The form of a character in a description. -/
def visibleChar (c : Char) : List Char :=
  match c with
  | '\x00' => ['\\', '0']
  | '\t' => ['\\', 't']
  | '\n' => ['\\', 'n']
  | '\r' => ['\\', 'r']
  | '"' => ['\\', '"']
  | '\\' => ['\\', '\\']
  | c =>
    if isVisible c then [c]
    else ['\\', 'u', '\x7B'] ++ Nat.toDigits 16 c.toNat ++ ['\x7D']

/-- A text in quotation marks with every character in a visible form. -/
def quoteVisible (cs : List Char) : String :=
  String.ofList ('"' :: cs.flatMap visibleChar ++ ['"'])

end Expectation.Text
