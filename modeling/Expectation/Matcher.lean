import Expectation.Binary64.Reading
import Expectation.Json.Quoted
import Expectation.Regex.Reading
import Expectation.Text.Blank

/-!
# Matchers

An expected document may hold a *matcher* in place of a value: a rule that
says which values are accepted there. The vocabulary is fixed: any value of one
kind, any value at all, values that a pattern matches, or values from a list.

A pattern is kept as its source text together with the regular expression that
the text denotes, and the type says that the two belong together. So two
patterns are equal exactly when their texts are, and the equality of matchers
can be decided.

A matcher is written `\x7b\x7bexpression\x7d\x7d`; this module gives the
expression that denotes a matcher, and `Expectation.Matcher.Expression` reads
expressions.

## Main results

* `Pattern.ext_source`: patterns with one source text are equal.
* `LawfulBEq Matcher`: matchers that are found equal are equal.
-/

namespace Expectation

/-- A pattern that has been accepted: its text and the regular expression that
the text denotes. -/
structure Pattern where
  source : String
  regex : Regex
  denotes : Regex.ofPattern source = .ok regex

/-- A text that is not accepted as a pattern, and why. -/
structure RefusedPattern where
  source : String
  reason : Regex.Refusal
  deriving DecidableEq, Repr

namespace RefusedPattern

/-- The words for a reason. -/
def reasonText : Regex.Refusal → String
  | .malformed => "regex parse error"
  | .tooLarge =>
    "Compiled regex exceeds size limit of " ++ toString Regex.Tally.limit ++ " bytes."

/-- The wording of the refusal. -/
def message (r : RefusedPattern) : String :=
  "invalid regex pattern `" ++ r.source ++ "`: " ++ reasonText r.reason

end RefusedPattern

namespace Pattern

/-- The pattern with a text, if the text is accepted. -/
def ofSource (source : String) : Except RefusedPattern Pattern :=
  match h : Regex.ofPattern source with
  | .ok regex => .ok ⟨source, regex, h⟩
  | .error reason => .error ⟨source, reason⟩

/-- Patterns with the same text are equal. -/
theorem ext_source {p q : Pattern} (h : p.source = q.source) : p = q := by
  obtain ⟨s, r, hr⟩ := p
  obtain ⟨s', r', hr'⟩ := q
  subst h
  obtain rfl : r = r' := by simpa [hr] using hr'
  rfl

instance : DecidableEq Pattern := fun p q =>
  if h : p.source = q.source then isTrue (ext_source h)
  else isFalse fun hpq => h (hpq ▸ rfl)

/-- Whether the pattern matches somewhere in a text. -/
def isMatch (p : Pattern) (text : String) : Bool :=
  p.regex.isMatch text

end Pattern

/-- The rules that can stand for a value. -/
inductive Matcher where
  /-- Any string. -/
  | anyString
  /-- An integer, or a number without a fractional part. -/
  | anyInt
  /-- Any number. -/
  | anyFloat
  /-- Either truth value. -/
  | anyBool
  /-- Any value, a missing one included. -/
  | anyValue
  /-- Any value, a missing one included; what it stands for is not compared. -/
  | ignore
  /-- A string that the pattern matches somewhere. -/
  | regex (pattern : Pattern)
  /-- One of the listed strings. -/
  | oneOf (values : List String)
  deriving DecidableEq

namespace Matcher

/-! ## Equality -/

/-- Equality of matchers: patterns by their texts, lists by their values, and any others by
their kind alone. -/
protected def beq : Matcher → Matcher → Bool
  | .regex p, .regex q => p.source == q.source
  | .oneOf values, .oneOf others => values == others
  | m, m' => m.ctorIdx == m'.ctorIdx

instance : BEq Matcher := ⟨Matcher.beq⟩

/-- Matchers that are found equal are equal: only those with arguments have more to them than
their kind. -/
instance : LawfulBEq Matcher where
  eq_of_beq {m m'} h := by
    change Matcher.beq m m' = true at h
    cases m with
    | regex p =>
        cases m' with
        | regex q => exact congrArg regex (Pattern.ext_source (eq_of_beq h))
        | _ => cases h
    | oneOf values =>
        cases m' with
        | oneOf others => exact congrArg oneOf (eq_of_beq h)
        | _ => cases h
    | _ => cases m' <;> first | rfl | cases h
  rfl {m} := by
    change Matcher.beq m m = true
    cases m with
    | regex p => exact beq_self_eq_true p.source
    | oneOf values => exact beq_self_eq_true values
    | _ => rfl

/-- The matcher that keeps what it stands for out of the comparison. -/
def isIgnore : Matcher → Bool
  | .ignore => true
  | _ => false

/-- Whether the matcher may stand inside a longer text. A pattern has to be the
whole value. -/
def embeddable : Matcher → Bool
  | .regex _ => false
  | _ => true

/-! ## Texts that a matcher accepts -/

/-- Whether a text, blank ends aside, spells a number without a fractional part. -/
def spellsInt (text : String) : Bool :=
  (Binary64.ofText? (Text.trim text.toList)).any Binary64.isIntegral

/-- Whether a text, blank ends aside, spells a number. -/
def spellsNumber (text : String) : Bool :=
  (Binary64.ofText? (Text.trim text.toList)).any Binary64.isFinite

/-- Whether a text, blank ends aside, spells a truth value. -/
def spellsBool (text : String) : Bool :=
  let t := Text.trimmed text
  t == "true" || t == "false"

/-- Whether the matcher accepts a text. A page has no types, so a matcher for
numbers or truth values accepts what spells one. -/
def acceptsText : Matcher → String → Bool
  | .anyString, _ => true
  | .anyInt, t => spellsInt t
  | .anyFloat, t => spellsNumber t
  | .anyBool, t => spellsBool t
  | .anyValue, _ => true
  | .ignore, _ => true
  | .regex p, t => p.isMatch t
  | .oneOf values, t => values.contains t

/-! ## The expression of a matcher -/

/-- The expression that denotes the matcher. -/
def expression : Matcher → String
  | .anyString => "anyString"
  | .anyInt => "anyInt"
  | .anyFloat => "anyFloat"
  | .anyBool => "anyBool"
  | .anyValue => "anyValue"
  | .ignore => "ignore"
  | .regex p => "regex `" ++ p.source ++ "`"
  | .oneOf values => "oneOf " ++ " ".intercalate (values.map Json.quote)

/-- An expression between the braces of a placeholder. -/
def brace (expression : String) : String :=
  "\x7b\x7b" ++ expression ++ "\x7d\x7d"

/-- The matcher as it is written in a document. -/
def describe (m : Matcher) : String :=
  brace m.expression

end Matcher

end Expectation
