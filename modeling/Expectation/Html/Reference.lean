import Expectation.Html.NamedCharacter

/-!
# Character references

In running text and in attribute values an ampersand can begin a reference to
a character, by name or by number. The longest name that fits counts. An
ampersand that begins no reference stands for itself.

In an attribute value a name without its semicolon does not count in front of a
letter, a digit or an equals sign, so that addresses with parameters survive.
-/

namespace Expectation.Html

/-- The character that stands for what cannot be shown. -/
def replacement : Char := '\ufffd'

/-! ## References by number -/

/-- The characters for the numbers from 128 to 159, which are read in an old
encoding of Western texts; zero stands for a number that keeps its meaning. -/
def westernCodes : List Nat := [
  0x20AC, 0, 0x201A, 0x0192, 0x201E, 0x2026, 0x2020, 0x2021, 0x02C6, 0x2030, 0x0160, 0x2039,
  0x0152, 0, 0x017D, 0, 0, 0x2018, 0x2019, 0x201C, 0x201D, 0x2022, 0x2013, 0x2014, 0x02DC,
  0x2122, 0x0161, 0x203A, 0x0153, 0, 0x017E, 0x0178]

/-- The character with a number. Numbers without a character are replaced. -/
def numberedChar (n : Nat) : Char :=
  if n = 0 || 0x10FFFF < n || (0xD800 ≤ n && n < 0xE000) then replacement
  else if 0x80 ≤ n && n ≤ 0x9F then
    match westernCodes[n - 0x80]? with
    | some 0 | none => Char.ofNat n
    | some code => Char.ofNat code
  else Char.ofNat n

/-- The value of a hexadecimal digit. -/
def hexDigitValue (c : Char) : Nat :=
  if c.isDigit then c.toNat - '0'.toNat else c.toLower.toNat - 'a'.toNat + 10

def isHexDigit (c : Char) : Bool :=
  c.isDigit || ('a' ≤ c.toLower && c.toLower ≤ 'f')

/-- The number that digits spell in a base. -/
def numberOfDigits (base : Nat) (digits : List Char) : Nat :=
  digits.foldl (fun n c => base * n + hexDigitValue c) 0

/-- The text without a semicolon in front. -/
def skipSemicolon : List Char → List Char
  | ';' :: cs => cs
  | cs => cs

/-- Whether digits at the front of a text are not followed by a semicolon. -/
def endsBare (isDigit : Char → Bool) (cs : List Char) : Bool :=
  cs.head?.any isDigit && (cs.dropWhile isDigit).head? != some ';'

/-- A reference by digits in a base at the front of a text. -/
def numbered? (base : Nat) (isDigit : Char → Bool) (cs : List Char) :
    Option (List Char × List Char) :=
  match cs.takeWhile isDigit with
  | [] => none
  | digits => some ([numberedChar (numberOfDigits base digits)],
      skipSemicolon (cs.dropWhile isDigit))

/-! ## References by name -/

/-- How much of a text a named character takes up at its front, if it is there. -/
def NamedCharacter.length? (e : NamedCharacter) (cs : List Char) : Option Nat :=
  if e.name.isPrefixOf cs then
    if (cs.drop e.name.length).head? = some ';' then some (e.name.length + 1)
    else if e.bare then some e.name.length
    else none
  else none

/-- The longest named character at the front of a text, with its length. -/
def longestNamed (cs : List Char) : List NamedCharacter → Option (Nat × NamedCharacter)
  | [] => none
  | e :: es =>
    match e.length? cs, longestNamed cs es with
    | some n, some (m, f) => if m < n then some (n, e) else some (m, f)
    | some n, none => some (n, e)
    | none, best => best

/-- Whether a name without semicolon does not count in an attribute value in
front of a text. -/
def continuesName (cs : List Char) : Bool :=
  cs.head?.any fun c => c == '=' || c.isAlphanum

/-- A reference by name at the front of a text. -/
def named? (inAttribute : Bool) (cs : List Char) : Option (List Char × List Char) :=
  match longestNamed cs namedCharacters with
  | none => none
  | some (n, e) =>
    if inAttribute && n == e.name.length && continuesName (cs.drop n) then none
    else some (e.chars, cs.drop n)

/-! ## Decoding -/

/-- What an ampersand in front of a text stands for, and the text after the
reference. -/
def afterAmpersand (inAttribute : Bool) (cs : List Char) : List Char × List Char :=
  let found := match cs with
    | '#' :: 'x' :: rest => numbered? 16 isHexDigit rest
    | '#' :: 'X' :: rest => numbered? 16 isHexDigit rest
    | '#' :: rest => numbered? 10 Char.isDigit rest
    | cs => named? inAttribute cs
  found.getD (['&'], cs)

/-- Whether an ampersand in front of a text begins a number without a semicolon. -/
def lacksSemicolon : List Char → Bool
  | '#' :: 'x' :: rest => endsBare isHexDigit rest
  | '#' :: 'X' :: rest => endsBare isHexDigit rest
  | '#' :: rest => endsBare Char.isDigit rest
  | _ => false

/-- A text with its references decoded; `fuel` bounds its length. -/
def decodeWithin (inAttribute : Bool) : Nat → List Char → List Char
  | 0, cs => cs
  | _, [] => []
  | fuel + 1, c :: cs =>
    if c = '&' then
      let (chars, rest) := afterAmpersand inAttribute cs
      chars ++ decodeWithin inAttribute fuel rest
    else c :: decodeWithin inAttribute fuel cs

/-- A text with its references decoded. -/
def decodeReferences (inAttribute : Bool) (cs : List Char) : List Char :=
  decodeWithin inAttribute cs.length cs

end Expectation.Html
