import Expectation.Json.Fault
import Expectation.Placeholder

/-!
# Why a document cannot be read

A document is refused because its text is not of its format, or because a
placeholder that stands for a whole value has an expression that denotes no
matcher. Comparing documents never fails.
-/

namespace Expectation

/-- The document formats. -/
inductive Format where
  | json
  | html
  deriving DecidableEq, Repr

/-- The name of a format in reports. -/
def Format.label : Format → String
  | .json => "JSON"
  | .html => "HTML"

/-- Why a document cannot be read. -/
inductive DocumentError where
  /-- The text is not a JSON document. -/
  | json (fault : Json.Located)
  /-- The bytes of a page are not text from an offset on. -/
  | encoding (offset : Nat) (fault : Text.Utf8Fault)
  /-- The expression of a placeholder denotes no matcher. -/
  | matcher (expression : String) (reason : Matcher.ExpressionError)
  /-- A sentinel names a place that was not handed out. -/
  | unknownPlaceholder (sentinel : String)
  deriving DecidableEq, Repr

/-- The wording of a fault in the encoding of a text, at an offset. -/
def utf8Message (offset : Nat) : Text.Utf8Fault → String
  | .invalid n =>
    "invalid utf-8 sequence of " ++ toString n ++ " bytes from index " ++ toString offset
  | .incomplete => "incomplete utf-8 byte sequence from index " ++ toString offset

/-- The wording for a text that is not of its format. -/
def unreadable (format : Format) (detail : String) : String :=
  "failed to parse " ++ format.label ++ " document: " ++ detail

/-- The wording of an error. -/
def DocumentError.message : DocumentError → String
  | .json fault => unreadable .json fault.message
  | .encoding offset fault => unreadable .html (utf8Message offset fault)
  | .matcher e reason => "invalid matcher `" ++ Matcher.brace e ++ "`: " ++ reason.message
  | .unknownPlaceholder s => "unknown placeholder `" ++ s ++ "`"

/-- The matcher of the placeholder at a place. -/
def Substitution.matcher (s : Substitution) (index : Nat) : Except DocumentError Matcher :=
  match s.expressions[index]? with
  | none => .error (.unknownPlaceholder (String.ofList (Placeholder.sentinel index)))
  | some e =>
    match Matcher.ofExpression e with
    | .ok m => .ok m
    | .error reason => .error (.matcher e reason)

end Expectation
