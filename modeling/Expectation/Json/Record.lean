import Expectation.Json.Printing
import Expectation.Json.Reading
import Expectation.Text.Visible

/-!
# Reading JSON texts of a wanted shape

Settings are written in JSON texts of which the shape is known: truth values,
lists of strings, and records of named fields. Such a text is read straight
into what it stands for, and a value of another kind is refused at its place.

A record is written as an object, with each field at most once and no other
key, or as an array of its fields in order. A field that is missing keeps the
value it had before.
-/

namespace Expectation.Json

open Text (Symbol)

/-! ## Values of another kind -/

/-- The words for a value that was not wanted. -/
def foundText : Value → String
  | .null => "null"
  | .bool b => "boolean `" ++ (if b then "true" else "false") ++ "`"
  | .int i => "integer `" ++ toString i.toInt ++ "`"
  | .nat n => "integer `" ++ toString n.toNat ++ "`"
  | .float x => "floating point `" ++ floatText x ++ "`"
  | .string s => "string " ++ Text.quoteVisible s.toList
  | .matcher m => "string " ++ Text.quoteVisible m.describe.toList
  | .array _ => "sequence"
  | .object _ => "map"

/-- The failure at a value that is not of the wanted kind. A value without
parts has been read when the failure is reported; an array or an object has not
been entered. -/
def failKind {α : Type} (expected : String) (cs : Input) : Except Failure α :=
  match skipSpace cs with
  | .char '[' :: rest => fail (.wrongKind "sequence" expected) (.char '[' :: rest)
  | .char '\x7B' :: rest => fail (.wrongKind "map" expected) (.char '\x7B' :: rest)
  | cs =>
    match valueWith none cs with
    | .error f => .error f
    | .ok (v, rest) => fail (.wrongKind (foundText v) expected) rest

/-! ## Truth values and lists of strings -/

/-- A truth value. -/
def readFlag : Reader Bool := fun cs =>
  match skipSpace cs with
  | .char 't' :: rest => (word ['r', 'u', 'e'] rest).map (true, ·)
  | .char 'f' :: rest => (word ['a', 'l', 's', 'e'] rest).map (false, ·)
  | cs => failKind "a boolean" cs

/-- A string. -/
def readText : Reader String := fun cs =>
  match skipSpace cs with
  | .char '"' :: rest => string rest
  | cs => failKind "a string" cs

/-- A list of strings. -/
def readTexts : Reader (List String) := fun cs =>
  match skipSpace cs with
  | .char '[' :: rest => items readText (rest.length + 1) true rest
  | cs => failKind "a sequence" cs

/-! ## Records -/

/-- A named field: how its text changes a record. -/
structure Field (α : Type) where
  name : String
  read : α → Reader α

/-- A field that is read by a reader of its own and then put into the record. -/
def Field.of {α β : Type} (name : String) (read : Reader β) (put : α → β → α) : Field α :=
  ⟨name, fun record cs => (read cs).map fun (b, rest) => (put record b, rest)⟩

/-- The end of an object of which no more is wanted. -/
def endObject (cs : Input) : Except Failure Input :=
  match skipSpace cs with
  | [] => fail .endInObject []
  | .char '\x7D' :: rest => .ok rest
  | .char ',' :: rest => failNext .trailingComma (.char ',' :: rest)
  | rest => failNext .trailingCharacters rest

/-- The end of an array of which no more is wanted. -/
def endArray (cs : Input) : Except Failure Input :=
  match skipSpace cs with
  | [] => fail .endInList []
  | .char ']' :: rest => .ok rest
  | .char ',' :: rest =>
    match skipSpace rest with
    | .char ']' :: rest => failNext .trailingComma (.char ']' :: rest)
    | rest => failNext .trailingCharacters rest
  | rest => failNext .trailingCharacters rest

/-- A fault at a key that has been read. It is reported behind the end of the
object if that follows. -/
def failKey {α : Type} (fault : Fault) (cs : Input) : Except Failure α :=
  match endObject cs with
  | .ok rest => fail fault rest
  | .error _ => fail fault (skipSpace cs)

/-- The fields of a record after the opening brace; `seen` are the names that
have occurred. -/
def namedFields {α : Type} (fields : List (Field α)) :
    Nat → List String → α → Reader α
  | 0, _, _ => fun cs => fail .endInObject cs
  | fuel + 1, seen, record => fun cs =>
    match nextKey seen.isEmpty cs with
    | .error f => .error f
    | .ok (false, rest) => .ok (record, rest)
    | .ok (true, rest) =>
      match string rest with
      | .error f => .error f
      | .ok (key, rest) =>
        match fields.find? (·.name == key) with
        | none => failKey (.unknownField key (fields.map Field.name)) rest
        | some field =>
          if seen.contains key then failKey (.duplicateField key) rest
          else
            match colon rest with
            | .error f => .error f
            | .ok rest =>
              match field.read record rest with
              | .error f => .error f
              | .ok (record, rest) => namedFields fields fuel (key :: seen) record rest

/-- The fields of a record after the opening bracket, in order. -/
def listedFields {α : Type} : List (Field α) → Bool → α → Reader α
  | [], _, record => fun cs => (endArray cs).map (record, ·)
  | field :: fields, first, record => fun cs =>
    match nextItem first cs with
    | .error f => .error f
    | .ok (false, rest) => .ok (record, rest)
    | .ok (true, rest) =>
      match field.read record rest with
      | .error f => .error f
      | .ok (record, rest) => listedFields fields false record rest

/-- A record of a kind: the given one with the fields that are written. -/
def readRecord {α : Type} (kind : String) (fields : List (Field α)) (record : α) : Reader α :=
  fun cs =>
    match skipSpace cs with
    | .char '\x7B' :: rest => namedFields fields (rest.length + 1) [] record rest
    | .char '[' :: rest => listedFields fields true record rest
    | cs => failKind ("struct " ++ kind) cs

/-- What a whole text spells according to a reader. -/
def readWhole {α : Type} (read : Reader α) (text : String) : Except Located α :=
  let input := Input.ofString text
  match read input with
  | .error f => .error (f.locate input)
  | .ok (a, rest) =>
    match atEnd rest with
    | .error f => .error (f.locate input)
    | .ok _ => .ok a

end Expectation.Json
