import Expectation.Matcher

/-!
# Reading matcher expressions

An expression is a keyword of its own, `regex` with a pattern between backticks
or quotation marks, or `oneOf` with quoted values. Inside a JSON document the
quotation marks of an expression may be escaped as the string around it
demands; such escapes are undone before the values are read.

Reading stops at the first thing that is not a quoted value, and what follows
the values is not looked at.
-/

namespace Expectation.Matcher

/-- Why an expression denotes no matcher. -/
inductive ExpressionError where
  /-- The expression begins with no known keyword. -/
  | unknown (expression : String)
  /-- The keyword is known and what follows it is not as it should be. -/
  | malformed (keyword expression : String)
  /-- The pattern is not accepted. -/
  | refusedPattern (refused : RefusedPattern)
  deriving DecidableEq, Repr

/-- The wording of an error. -/
def ExpressionError.message : ExpressionError → String
  | .unknown e => "unknown matcher expression `" ++ e ++ "`"
  | .malformed k e => "malformed `" ++ k ++ "` arguments in `" ++ e ++ "`"
  | .refusedPattern r => r.message

/-! ## Quoted values -/

/-- The blanks between the parts of an expression. -/
def isGap (c : Char) : Bool := c == ' ' || c == '\t'

/-- A text without gaps in front. -/
def skipGap (cs : List Char) : List Char := cs.dropWhile isGap

/-- A text without gaps at both ends. -/
def trimGaps (cs : List Char) : List Char :=
  ((skipGap cs).reverse.dropWhile isGap).reverse

/-- Replaces every occurrence of a text that is not empty, from left to right;
`left` characters of the last occurrence are still to be passed over. -/
def replaceAll (old new : List Char) : Nat → List Char → List Char
  | _, [] => []
  | left + 1, _ :: cs => replaceAll old new left cs
  | 0, c :: cs =>
    if old.isPrefixOf (c :: cs) then new ++ replaceAll old new (old.length - 1) cs
    else c :: replaceAll old new 0 cs

/-- The value of a hexadecimal digit. -/
def hexValue? (c : Char) : Option Nat :=
  if c.isDigit then some (c.toNat - 48)
  else if 'a' ≤ c && c ≤ 'f' then some (c.toNat - 87)
  else if 'A' ≤ c && c ≤ 'F' then some (c.toNat - 55)
  else none

/-- Four hexadecimal digits and the text after them. -/
def hex4? : List Char → Option (Nat × List Char)
  | a :: b :: c :: d :: rest =>
    match hexValue? a, hexValue? b, hexValue? c, hexValue? d with
    | some a, some b, some c, some d => some (((a * 16 + b) * 16 + c) * 16 + d, rest)
    | _, _, _, _ => none
  | _ => none

/-- A character by its four digits, or by two times four digits when it lies
beyond the first plane; half of a pair alone is no character. -/
def unicodeEscape? (cs : List Char) : Option (Char × List Char) :=
  match hex4? cs with
  | none => none
  | some (high, rest) =>
    if 0xD800 ≤ high && high < 0xDC00 then
      match rest with
      | '\\' :: 'u' :: rest =>
        match hex4? rest with
        | some (low, rest) =>
          if 0xDC00 ≤ low && low < 0xE000 then
            some (Char.ofNat (0x10000 + (high - 0xD800) * 1024 + (low - 0xDC00)), rest)
          else none
        | none => none
      | _ => none
    else if 0xDC00 ≤ high && high < 0xE000 then none
    else some (Char.ofNat high, rest)

/-- The value of a quoted text after its opening mark, and the text behind the
closing mark; `fuel` bounds the length. A backslash before any other character
stands for that character. -/
def quoted? : Nat → List Char → Option (List Char × List Char)
  | 0, _ => none
  | fuel + 1, cs =>
    let andThen (c : Char) (rest : List Char) : Option (List Char × List Char) :=
      (quoted? fuel rest).map fun (value, after) => (c :: value, after)
    match cs with
    | [] => none
    | '"' :: rest => some ([], rest)
    | '\\' :: 'n' :: rest => andThen '\n' rest
    | '\\' :: 't' :: rest => andThen '\t' rest
    | '\\' :: 'r' :: rest => andThen '\r' rest
    | '\\' :: 'b' :: rest => andThen '\x08' rest
    | '\\' :: 'f' :: rest => andThen '\x0C' rest
    | '\\' :: 'u' :: rest =>
      match unicodeEscape? rest with
      | some (c, rest) => andThen c rest
      | none => none
    | '\\' :: c :: rest => andThen c rest
    | ['\\'] => none
    | c :: rest => andThen c rest

/-- The quoted values at the front of a text, with gaps between them. -/
def quotedValues : Nat → List Char → List (List Char)
  | 0, _ => []
  | fuel + 1, cs =>
    match cs with
    | '"' :: rest =>
      match quoted? (rest.length + 1) rest with
      | some (value, after) => value :: quotedValues fuel (skipGap after)
      | none => []
    | _ => []

/-- The quoted values of an argument text. When the first mark is escaped, all
escaped marks are taken for plain ones, the doubly escaped first. -/
def arguments (cs : List Char) : List (List Char) :=
  let cs := trimGaps cs
  let plain :=
    if ['\\', '"'].isPrefixOf cs then
      replaceAll ['\\', '"'] ['"'] 0 (replaceAll ['\\', '\\', '"'] ['"'] 0 cs)
    else cs
  quotedValues (plain.length + 1) plain

/-! ## Expressions -/

/-- What follows a keyword and at least one gap. -/
def afterKeyword? (keyword : String) (cs : List Char) : Option (List Char) :=
  if keyword.toList.isPrefixOf cs then
    match cs.drop keyword.toList.length with
    | c :: rest => if isGap c then some (trimGaps (c :: rest)) else none
    | [] => none
  else none

/-- The text between backticks at the front; an empty one does not count. -/
def backticked? : List Char → Option (List Char)
  | '\x60' :: rest =>
    match rest.takeWhile (· != '\x60'), rest.dropWhile (· != '\x60') with
    | c :: inner, _ :: _ => some (c :: inner)
    | _, _ => none
  | _ => none

/-- The first quoted value; an empty one does not count. -/
def firstArgument? (cs : List Char) : Option (List Char) :=
  match arguments cs with
  | (c :: value) :: _ => some (c :: value)
  | _ => none

/-- The matcher with the pattern in an argument text. -/
def readPattern (expression : String) (cs : List Char) : Except ExpressionError Matcher :=
  match backticked? cs <|> firstArgument? cs with
  | none => .error (.malformed "regex" expression)
  | some source =>
    match Pattern.ofSource (String.ofList source) with
    | .ok p => .ok (.regex p)
    | .error refused => .error (.refusedPattern refused)

/-- The matcher with the values in an argument text. -/
def readValues (expression : String) (cs : List Char) : Except ExpressionError Matcher :=
  match arguments cs with
  | [] => .error (.malformed "oneOf" expression)
  | values => .ok (.oneOf (values.map String.ofList))

/-- The matcher that an expression denotes. Blank ends of the expression do not
count. -/
def ofExpression (text : String) : Except ExpressionError Matcher :=
  let cs := Text.trim text.toList
  let expression := String.ofList cs
  match expression with
  | "anyString" => .ok .anyString
  | "anyInt" => .ok .anyInt
  | "anyFloat" => .ok .anyFloat
  | "anyBool" => .ok .anyBool
  | "anyValue" => .ok .anyValue
  | "ignore" => .ok .ignore
  | _ =>
    match afterKeyword? "regex" cs with
    | some rest => readPattern expression rest
    | none =>
      match afterKeyword? "oneOf" cs with
      | some rest => readValues expression rest
      | none => .error (.unknown expression)

end Expectation.Matcher
