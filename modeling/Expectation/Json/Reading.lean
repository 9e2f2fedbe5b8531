import Expectation.Json.Fault
import Expectation.Json.Value

/-!
# Reading JSON texts

A JSON text is read from left to right, one symbol after the other. The reader
for a value is built from the reader for the values inside it, so the depth to
which values nest is the only recursion between them; the loops over the items
of an array and the members of an object are bounded by the length of the input.

Numbers follow a rule of their own. Digits are collected as long as the
integer they form fits sixty-four bits; the first digit that would overflow and
the digits after it only shift the decimal point. The result is that integer,
rounded, times or divided by a rounded power of ten, and need not be the number
nearest to the text.
-/

namespace Expectation.Json

open Text (Symbol)

/-! ## Symbols -/

/-- The blanks between the parts of a text. -/
def isSpace (s : Symbol) : Bool :=
  s == .char ' ' || s == .char '\n' || s == .char '\t' || s == .char '\r'

/-- The input after the blanks in front. -/
def skipSpace (cs : Input) : Input := cs.dropWhile isSpace

/-- The rest of a word whose first letter has been read. -/
def word : List Char → Input → Except Failure Input
  | [], cs => .ok cs
  | _ :: _, [] => fail .endInValue []
  | c :: word', s :: cs =>
    if s = .char c then word word' cs else .error ⟨.expectedWord, s :: cs, 1⟩

/-! ## Strings -/

/-- The value of a hexadecimal digit. -/
def hexDigit? : Symbol → Option Nat
  | .char c =>
    if c.isDigit then some (c.toNat - 48)
    else if 'a' ≤ c && c ≤ 'f' then some (c.toNat - 87)
    else if 'A' ≤ c && c ≤ 'F' then some (c.toNat - 55)
    else none
  | .stray _ => none

/-- Four hexadecimal digits. -/
def fourDigits : Reader Nat := fun cs =>
  let wrong : Except Failure (Nat × Input) :=
    if cs.width < 4 then fail .endInString [] else .error ⟨.invalidEscape, cs, 4⟩
  match cs with
  | a :: b :: c :: d :: rest =>
    match hexDigit? a, hexDigit? b, hexDigit? c, hexDigit? d with
    | some a, some b, some c, some d => .ok (((a * 16 + b) * 16 + c) * 16 + d, rest)
    | _, _, _, _ => wrong
  | _ => wrong

/-- The character of an escape by number; a leading half of a pair has to be
followed by a trailing half. -/
def numberedEscape : Reader Char := fun cs =>
  match fourDigits cs with
  | .error f => .error f
  | .ok (high, rest) =>
    if 0xDC00 ≤ high && high < 0xE000 then fail .loneSurrogate rest
    else if 0xD800 ≤ high && high < 0xDC00 then
      match rest with
      | [] => fail .endInString []
      | .char '\\' :: [] => fail .endInString []
      | .char '\\' :: .char 'u' :: rest =>
        match fourDigits rest with
        | .error f => .error f
        | .ok (low, rest) =>
          if 0xDC00 ≤ low && low < 0xE000 then
            .ok (Char.ofNat (0x10000 + (high - 0xD800) * 1024 + (low - 0xDC00)), rest)
          else fail .loneSurrogate rest
      | .char '\\' :: rest => .error ⟨.endInEscape, rest, 1⟩
      | rest => .error ⟨.endInEscape, rest, 1⟩
    else .ok (Char.ofNat high, rest)

/-- The character of an escape, after the backslash. -/
def escape : Reader Char
  | [] => fail .endInString []
  | s :: rest =>
    match s with
    | .char '"' => .ok ('"', rest)
    | .char '\\' => .ok ('\\', rest)
    | .char '/' => .ok ('/', rest)
    | .char 'b' => .ok ('\x08', rest)
    | .char 'f' => .ok ('\x0C', rest)
    | .char 'n' => .ok ('\n', rest)
    | .char 'r' => .ok ('\r', rest)
    | .char 't' => .ok ('\t', rest)
    | .char 'u' => numberedEscape rest
    | s => .error ⟨.invalidEscape, s :: rest, 1⟩

/-- The characters of a string after its opening mark, and the input from the
first stray byte in it, if there is one. -/
def stringBody : Nat → Reader (List Char × Option Input)
  | 0, cs => fail .endInString cs
  | fuel + 1, cs =>
    match cs with
    | [] => fail .endInString []
    | .stray b :: rest =>
      (stringBody fuel rest).map fun ((chars, _), after) =>
        ((chars, some (.stray b :: rest)), after)
    | .char c :: rest =>
      if c = '"' then .ok (([], none), rest)
      else if c = '\\' then
        match escape rest with
        | .error f => .error f
        | .ok (c, rest) =>
          (stringBody fuel rest).map fun ((chars, stray), after) => ((c :: chars, stray), after)
      else if c.toNat < 0x20 then .error ⟨.controlCharacter, .char c :: rest, 1⟩
      else
        (stringBody fuel rest).map fun ((chars, stray), after) => ((c :: chars, stray), after)

/-- A string after its opening mark. It has to be text throughout. -/
def string : Reader String := fun cs =>
  match stringBody (cs.length + 1) cs with
  | .error f => .error f
  | .ok ((_, some stray), _) => .error ⟨.invalidCodePoint, stray, 1⟩
  | .ok ((chars, none), rest) => .ok (String.ofList chars, rest)

/-! ## Numbers -/

/-- The value of a decimal digit. -/
def decimalDigit? : Symbol → Option Nat
  | .char c => if c.isDigit then some (c.toNat - 48) else none
  | .stray _ => none

/-- The digits at the front. -/
def digits : Input → List Nat × Input
  | [] => ([], [])
  | s :: cs =>
    match decimalDigit? s with
    | some d => ((d :: (digits cs).1), (digits cs).2)
    | none => ([], s :: cs)

/-- Appends digits to a number as long as it stays below `2 ^ 64`; the second
part counts the digits left over. -/
def appendDigits (n : Nat) : List Nat → Nat × Nat
  | [] => (n, 0)
  | d :: ds =>
    if n * 10 + d < Nat.pow 2 64 then appendDigits (n * 10 + d) ds else (n, ds.length + 1)

/-- The rounded power of ten. -/
def powerOfTen (k : Nat) : Binary64 := .ofNat (Nat.pow 10 k)

/-- The number `n · 10 ^ scale` in two roundings, or nothing if it is too large
for the format. Powers beyond the format are applied in two parts when dividing. -/
def scaled? (n : Nat) (scale : Int) : Option Binary64 :=
  let x := Binary64.ofNat n
  if x.isZero then some x
  else if 0 ≤ scale then
    if 308 < scale then none
    else
      let y := x.mul (powerOfTen scale.toNat)
      if y.isFinite then some y else none
  else
    let k := (-scale).toNat
    if k ≤ 308 then some (x.div (powerOfTen k))
    else if k ≤ 616 then some ((x.div (powerOfTen 308)).div (powerOfTen (k - 308)))
    else some (.ofNat 0)

/-- A floating-point number with a sign. -/
def withSign (negative : Bool) (x : Binary64) : Value := .float (if negative then x.neg else x)

/-- The number `n · 10 ^ scale`, or a failure behind its text. -/
def floatValue (negative : Bool) (n : Nat) (scale : Int) : Reader Value := fun cs =>
  match scaled? n scale with
  | some x => .ok (withSign negative x, cs)
  | none => fail .numberOutOfRange cs

/-- The largest exponent that is read as such. -/
def exponentLimit : Nat := Nat.pow 2 31 - 1

/-- Reads digits into an exponent up to the limit; if a digit exceeds it, gives
the input after that digit. -/
def exponentDigits (e : Nat) : Input → Except Input (Nat × Input)
  | [] => .ok (e, [])
  | s :: cs =>
    match decimalDigit? s with
    | some d => if e * 10 + d ≤ exponentLimit then exponentDigits (e * 10 + d) cs else .error cs
    | none => .ok (e, s :: cs)

/-- The exponent of a number after its letter, and with it the number. -/
def exponentPart (negative : Bool) (n : Nat) (scale : Int) : Reader Value := fun cs =>
  let (down, cs) := match cs with
    | .char '+' :: cs => (false, cs)
    | .char '-' :: cs => (true, cs)
    | cs => (false, cs)
  match cs with
  | [] => fail .endInValue []
  | s :: rest =>
    if (decimalDigit? s).isNone then .error ⟨.invalidNumber, s :: rest, 1⟩
    else
      match exponentDigits 0 (s :: rest) with
      | .ok (e, rest) => floatValue negative n (if down then scale - e else scale + e) rest
      | .error rest =>
        if n != 0 && !down then fail .numberOutOfRange rest
        else .ok (withSign negative (.ofNat 0), (digits rest).2)

/-- What may follow the digits of a number: an exponent, or its end. -/
def afterDigits (negative : Bool) (n : Nat) (scale : Int) : Reader Value := fun cs =>
  match cs with
  | .char 'e' :: rest => exponentPart negative n scale rest
  | .char 'E' :: rest => exponentPart negative n scale rest
  | cs => floatValue negative n scale cs

/-- The places after the point. -/
def fractionPart (negative : Bool) (n : Nat) (scale : Int) : Reader Value := fun cs =>
  match digits cs with
  | ([], rest) =>
    failNext (if rest.isEmpty then .endInValue else .invalidNumber) rest
  | (ds, rest) =>
    let (n, left) := appendDigits n ds
    afterDigits negative n (scale - (ds.length - left : Nat)) rest

/-- An integer that was written without point and exponent. -/
def integerValue (negative : Bool) (n : Nat) : Value :=
  if negative then
    if n = 0 then .float (Binary64.ofNat 0).neg
    else if n ≤ Nat.pow 2 63 then .int (Int64.ofInt (-(n : Int)))
    else .float (Binary64.ofNat n).neg
  else if n < Nat.pow 2 63 then .int (Int64.ofInt n)
  else .nat (UInt64.ofNat n)

/-- A number after its sign. A zero in front is the only digit before the point. -/
def number (negative : Bool) : Reader Value := fun cs =>
  match digits cs with
  | ([], []) => fail .endInValue []
  | ([], rest) => .error ⟨.invalidNumber, rest, 1⟩
  | (d :: ds, rest) =>
    if d = 0 && !ds.isEmpty then .error ⟨.invalidNumber, cs.drop 1, 1⟩
    else
      let (n, left) := appendDigits 0 (d :: ds)
      match rest with
      | .char '.' :: rest => fractionPart negative n left rest
      | .char 'e' :: rest => exponentPart negative n left rest
      | .char 'E' :: rest => exponentPart negative n left rest
      | rest =>
        if left = 0 then .ok (integerValue negative n, rest)
        else floatValue negative n left rest

/-! ## Arrays and objects -/

/-- The input at the next item of an array, or behind the closing bracket. -/
def nextItem (first : Bool) (cs : Input) : Except Failure (Bool × Input) :=
  match skipSpace cs with
  | [] => fail .endInList []
  | .char ']' :: rest => .ok (false, rest)
  | .char ',' :: rest =>
    if first then .ok (true, .char ',' :: rest)
    else
      match skipSpace rest with
      | [] => fail .endInValue []
      | .char ']' :: rest => failNext .trailingComma (.char ']' :: rest)
      | rest => .ok (true, rest)
  | rest => if first then .ok (true, rest) else failNext .expectedListEnd rest

/-- The items of an array after its opening bracket. -/
def items {α : Type} (item : Reader α) : Nat → Bool → Reader (List α)
  | 0, _ => fun cs => fail .endInList cs
  | fuel + 1, first => fun cs =>
    match nextItem first cs with
    | .error f => .error f
    | .ok (false, rest) => .ok ([], rest)
    | .ok (true, rest) =>
      match item rest with
      | .error f => .error f
      | .ok (v, rest) => (items item fuel false rest).map fun (vs, after) => (v :: vs, after)

/-- The input behind the opening mark of the next key of an object, or behind
the closing brace. -/
def nextKey (first : Bool) (cs : Input) : Except Failure (Bool × Input) :=
  match skipSpace cs with
  | [] => fail .endInObject []
  | .char '\x7D' :: rest => .ok (false, rest)
  | .char ',' :: rest =>
    if first then failNext .keyNotString (.char ',' :: rest)
    else
      match skipSpace rest with
      | [] => fail .endInValue []
      | .char '"' :: rest => .ok (true, rest)
      | .char '\x7D' :: rest => failNext .trailingComma (.char '\x7D' :: rest)
      | rest => failNext .keyNotString rest
  | .char '"' :: rest =>
    if first then .ok (true, rest) else failNext .expectedObjectEnd (.char '"' :: rest)
  | rest => failNext (if first then .keyNotString else .expectedObjectEnd) rest

/-- The colon between a key and its value. -/
def colon (cs : Input) : Except Failure Input :=
  match skipSpace cs with
  | [] => fail .endInObject []
  | .char ':' :: rest => .ok rest
  | rest => failNext .expectedColon rest

/-- The members of an object after its opening brace, in the order written. -/
def members {α : Type} (item : Reader α) : Nat → Bool → Reader (List (String × α))
  | 0, _ => fun cs => fail .endInObject cs
  | fuel + 1, first => fun cs =>
    match nextKey first cs with
    | .error f => .error f
    | .ok (false, rest) => .ok ([], rest)
    | .ok (true, rest) =>
      match string rest with
      | .error f => .error f
      | .ok (key, rest) =>
        match colon rest with
        | .error f => .error f
        | .ok rest =>
          match item rest with
          | .error f => .error f
          | .ok (v, rest) =>
            (members item fuel false rest).map fun (ms, after) => ((key, v) :: ms, after)

/-! ## Values -/

/-- A value whose parts, if it may have any, are read by `part`. -/
def valueWith (part : Option (Reader Value)) : Reader Value := fun cs =>
  match skipSpace cs with
  | [] => fail .endInValue []
  | .stray b :: rest => failNext .expectedValue (.stray b :: rest)
  | .char c :: rest =>
    match c with
    | 'n' => (word ['u', 'l', 'l'] rest).map (.null, ·)
    | 't' => (word ['r', 'u', 'e'] rest).map (.bool true, ·)
    | 'f' => (word ['a', 'l', 's', 'e'] rest).map (.bool false, ·)
    | '-' => number true rest
    | '"' => (string rest).map fun (s, after) => (.string s, after)
    | '[' =>
      match part with
      | none => failNext .tooDeep (.char c :: rest)
      | some part =>
        (items part (rest.length + 1) true rest).map fun (vs, after) => (.array vs, after)
    | '\x7B' =>
      match part with
      | none => failNext .tooDeep (.char c :: rest)
      | some part =>
        (members part (rest.length + 1) true rest).map fun (ms, after) =>
          (.object (ofPairs ms), after)
    | c =>
      if c.isDigit then number false (.char c :: rest)
      else failNext .expectedValue (.char c :: rest)

/-- A value in which arrays and objects nest to the given depth. -/
def value : Nat → Reader Value
  | 0 => valueWith none
  | depth + 1 => valueWith (some (value depth))

/-- How deeply arrays and objects may nest. -/
def depthLimit : Nat := 127

/-- The end of a text: nothing but blanks. -/
def atEnd (cs : Input) : Except Failure Unit :=
  match skipSpace cs with
  | [] => .ok ()
  | rest => failNext .trailingCharacters rest

/-- The value that a whole text spells. -/
def document (cs : Input) : Except Failure Value :=
  match value depthLimit cs with
  | .error f => .error f
  | .ok (v, rest) => (atEnd rest).map fun _ => v

/-- The value of a text given by its symbols. -/
def read (input : Input) : Except Located Value :=
  match document input with
  | .ok v => .ok v
  | .error f => .error (f.locate input)

/-- The value of a text. -/
def readString (text : String) : Except Located Value :=
  read (.ofString text)

/-- The value of a text given by its bytes. -/
def readBytes (bytes : List UInt8) : Except Located Value :=
  read (Text.symbols bytes)

end Expectation.Json
