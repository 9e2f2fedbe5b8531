import Expectation.Text.Utf8

/-!
# Faults of JSON texts

A reader that cannot go on stops with a `Failure`: what is wrong, the input
from the place where reading stopped, and how many bytes of it belong to the
fault. The place is turned into a line and a column only when the failure is
reported, by `Failure.locate`, which counts in the whole input: lines from one,
columns in bytes from the front of the line.
-/

namespace Expectation.Json

open Text (Symbol)

/-- The input of a reader. -/
abbrev Input := List Symbol

/-- The symbols of a string. -/
def Input.ofString (s : String) : Input := s.toList.map .char

/-- The number of bytes of an input. -/
def Input.width (cs : Input) : Nat := cs.foldr (fun s n => s.width + n) 0

/-- What can be wrong with a JSON text, and with the value it holds where a
value of a certain shape is wanted. -/
inductive Fault where
  | endInList
  | endInObject
  | endInString
  | endInValue
  | expectedColon
  | expectedListEnd
  | expectedObjectEnd
  | expectedWord
  | expectedValue
  | invalidEscape
  | invalidNumber
  | numberOutOfRange
  | invalidCodePoint
  | controlCharacter
  | keyNotString
  | loneSurrogate
  | endInEscape
  | trailingComma
  | trailingCharacters
  | tooDeep
  /-- The value is of another kind than the wanted one. -/
  | wrongKind (found expected : String)
  /-- A member has a key that is not among the known ones. -/
  | unknownField (name : String) (known : List String)
  /-- A key occurs twice. -/
  | duplicateField (name : String)
  deriving DecidableEq, Repr

/-- A list of keys as a choice: one alone, two with `or`, more as a list. -/
def Fault.choices (known : List String) : String :=
  let quoted := known.map fun k => "`" ++ k ++ "`"
  match quoted with
  | [] => "there are no fields"
  | [a] => "expected " ++ a
  | [a, b] => "expected " ++ a ++ " or " ++ b
  | _ => "expected one of " ++ ", ".intercalate quoted

/-- The wording of a fault. -/
def Fault.message : Fault → String
  | .endInList => "EOF while parsing a list"
  | .endInObject => "EOF while parsing an object"
  | .endInString => "EOF while parsing a string"
  | .endInValue => "EOF while parsing a value"
  | .expectedColon => "expected `:`"
  | .expectedListEnd => "expected `,` or `]`"
  | .expectedObjectEnd => "expected `,` or `\x7d`"
  | .expectedWord => "expected ident"
  | .expectedValue => "expected value"
  | .invalidEscape => "invalid escape"
  | .invalidNumber => "invalid number"
  | .numberOutOfRange => "number out of range"
  | .invalidCodePoint => "invalid unicode code point"
  | .controlCharacter =>
    "control character (\\u0000-\\u001F) found while parsing a string"
  | .keyNotString => "key must be a string"
  | .loneSurrogate => "lone leading surrogate in hex escape"
  | .endInEscape => "unexpected end of hex escape"
  | .trailingComma => "trailing comma"
  | .trailingCharacters => "trailing characters"
  | .tooDeep => "recursion limit exceeded"
  | .wrongKind found expected => "invalid type: " ++ found ++ ", expected " ++ expected
  | .unknownField name known => "unknown field `" ++ name ++ "`, " ++ choices known
  | .duplicateField name => "duplicate field `" ++ name ++ "`"

/-- Why and where a reader stopped: `ahead` bytes of the rest belong to the
fault. -/
structure Failure where
  fault : Fault
  rest : Input
  ahead : Nat

/-- A step of reading. -/
abbrev Reader (α : Type) := Input → Except Failure (α × Input)

/-- The failure in front of the rest. -/
def fail {α : Type} (fault : Fault) (rest : Input) : Except Failure α :=
  .error ⟨fault, rest, 0⟩

/-- The failure at the next byte, or at the end of the input. -/
def failNext {α : Type} (fault : Fault) (rest : Input) : Except Failure α :=
  .error ⟨fault, rest, min 1 rest.length⟩

/-- A fault with its place. -/
structure Located where
  fault : Fault
  line : Nat
  column : Nat
  deriving DecidableEq, Repr

/-- The line and the column after so many bytes of the input, counted on from a
given place. -/
def position : Nat → Nat → Nat → Input → Nat × Nat
  | line, column, _, [] => (line, column)
  | line, column, bytes, s :: rest =>
    if bytes = 0 then (line, column)
    else if s = .char '\n' then position (line + 1) 0 (bytes - 1) rest
    else if bytes ≤ s.width then (line, column + bytes)
    else position line (column + s.width) (bytes - s.width) rest

/-- The failure with its place in the whole input. -/
def Failure.locate (whole : Input) (f : Failure) : Located :=
  let (line, column) := position 1 0 (whole.width - f.rest.width + f.ahead) whole
  ⟨f.fault, line, column⟩

/-- The wording of a fault with its place. -/
def Located.message (l : Located) : String :=
  l.fault.message ++ " at line " ++ toString l.line ++ " column " ++ toString l.column

end Expectation.Json
