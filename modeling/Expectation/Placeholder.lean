import Expectation.Matcher.Expression

/-!
# Placeholders in document text

An expected document is an ordinary document in which some values are written
as `\x7b\x7bexpression\x7d\x7d`. Before the document is read, every placeholder
is replaced by a *sentinel*, a token that means nothing in any document format,
and its expression is put on a list; the sentinel carries the place on that
list. What the document's reader makes of the text can then be searched for
sentinels again.

Replacing happens in two steps. `scan` cuts the raw text into characters and
placeholders; it alone knows where a placeholder may stand and where it ends.
`Substitution` is then what the scan spells. The way back is `tokens`, which
finds the sentinels that were handed out, and `restore`, which puts the
placeholders back in their place.

A placeholder ends at the first pair of closing braces outside backticks, so a
pattern may hold braces. Inside a JSON document a placeholder in value position
becomes a quoted sentinel, one inside a string a bare one.
-/

namespace Expectation

/-- Where a scan stands in the raw text. Outside JSON there is only one answer. -/
inductive ScanContext where
  /-- Text in which quotation marks mean nothing. -/
  | plain
  /-- JSON outside any string. -/
  | value
  /-- JSON inside a string. -/
  | string
  /-- JSON inside a string, after a backslash. -/
  | escaped
  deriving DecidableEq, Repr

/-- The context after a character has been passed. -/
def ScanContext.next (context : ScanContext) (c : Char) : ScanContext :=
  match context with
  | .plain => .plain
  | .value => if c = '"' then .string else .value
  | .string => if c = '"' then .value else if c = '\\' then .escaped else .string
  | .escaped => .string

/-- A part of the raw text: a character that stays as it is, or a placeholder
with its expression, and whether its sentinel gets quotation marks. -/
inductive Segment where
  | char (c : Char)
  | placeholder (expression : List Char) (quoted : Bool)
  deriving DecidableEq, Repr

namespace Placeholder

/-! ## Scanning -/

/-- The text in front of the first pair of closing braces outside backticks;
`ticked` says whether a backtick is open. -/
def beforeClose : Bool → List Char → Option (List Char)
  | _, [] => none
  | ticked, c :: cs =>
    if c = '\x60' then (beforeClose (!ticked) cs).map (c :: ·)
    else if c = '\x7D' && !ticked && cs.head? = some '\x7D' then some []
    else (beforeClose ticked cs).map (c :: ·)

/-- The text between the braces of a placeholder at the front of a text. An
expression that is blank makes no placeholder. -/
def inner? : List Char → Option (List Char)
  | '\x7B' :: '\x7B' :: rest =>
    match beforeClose false rest with
    | some inner => if (Text.trim inner).isEmpty then none else some inner
    | none => none
  | _ => none

/-- The segments of a raw text. The first argument counts the characters of a
placeholder that are still to be passed over. -/
def scan : Nat → ScanContext → List Char → List Segment
  | _, _, [] => []
  | left + 1, context, _ :: cs => scan left context cs
  | 0, context, c :: cs =>
    match (if context = .escaped then none else inner? (c :: cs)) with
    | some inner =>
      .placeholder (Text.trim inner) (context = .value) :: scan (inner.length + 3) context cs
    | none => .char c :: scan 0 (context.next c) cs

/-! ## Sentinels -/

/-- What every sentinel begins with. -/
def sentinelFront : List Char := "__MATCHER_".toList

/-- What every sentinel ends with. -/
def sentinelBack : List Char := "__".toList

/-- The sentinel of a place on the list of expressions. -/
def sentinel (index : Nat) : List Char :=
  sentinelFront ++ (toString index).toList ++ sentinelBack

/-- The text that segments spell, with the sentinels counted from `index`. -/
def spell : Nat → List Segment → List Char
  | _, [] => []
  | index, .char c :: rest => c :: spell index rest
  | index, .placeholder _ quoted :: rest =>
    (if quoted then '"' :: sentinel index ++ ['"'] else sentinel index) ++ spell (index + 1) rest

/-- The expressions of the placeholders among segments. -/
def expressionsOf (segments : List Segment) : List String :=
  segments.filterMap fun
    | .char _ => none
    | .placeholder e _ => some (String.ofList e)

end Placeholder

/-- A document text in which sentinels stand for placeholders, with the
expressions of the placeholders in order. -/
structure Substitution where
  text : String
  expressions : List String
  deriving DecidableEq, Repr

namespace Substitution

/-- Replaces the placeholders of a raw text, beginning in a context. -/
def ofText (context : ScanContext) (raw : String) : Substitution :=
  let segments := Placeholder.scan 0 context raw.toList
  ⟨String.ofList (Placeholder.spell 0 segments), Placeholder.expressionsOf segments⟩

end Substitution

namespace Placeholder

/-! ## Finding sentinels -/

/-- A part of a text: a character, or a sentinel that was handed out. -/
inductive Token where
  | char (c : Char)
  | mark (index : Nat)
  deriving DecidableEq, Repr

/-- What stands behind the front of a sentinel: the place it names and its
length, if the place is below `count`. -/
def sentinelPlace? (count : Nat) (cs : List Char) : Option (Nat × Nat) :=
  let ds := cs.takeWhile Char.isDigit
  let n := Binary64.digitsValue ds
  if !ds.isEmpty && n < count && sentinelBack.isPrefixOf (cs.drop ds.length) then
    some (n, ds.length + sentinelBack.length)
  else none

/-- The tokens of a text when `count` sentinels were handed out. The front of
something that turns out to be no sentinel is plain text, and the search goes
on behind it. The first two arguments count the characters still to be passed
over and to be kept without a search. -/
def tokenize (count : Nat) : Nat → Nat → List Char → List Token
  | _, _, [] => []
  | drop + 1, keep, _ :: cs => tokenize count drop keep cs
  | 0, keep + 1, c :: cs => .char c :: tokenize count 0 keep cs
  | 0, 0, c :: cs =>
    if sentinelFront.isPrefixOf (c :: cs) then
      match sentinelPlace? count ((c :: cs).drop sentinelFront.length) with
      | some (n, length) => .mark n :: tokenize count (sentinelFront.length + length - 1) 0 cs
      | none => .char c :: tokenize count 0 (sentinelFront.length - 1) cs
    else .char c :: tokenize count 0 0 cs

/-- The tokens of a text when `count` sentinels were handed out. -/
def tokens (count : Nat) (text : String) : List Token :=
  tokenize count 0 0 text.toList

/-- A run of plain characters, or a sentinel. -/
inductive Piece where
  | literal (text : List Char)
  | mark (index : Nat)
  deriving DecidableEq, Repr

/-- Tokens with neighbouring characters joined to runs. -/
def pieces : List Token → List Piece
  | [] => []
  | .mark i :: rest => .mark i :: pieces rest
  | .char c :: rest =>
    match pieces rest with
    | .literal cs :: ps => .literal (c :: cs) :: ps
    | ps => .literal [c] :: ps

end Placeholder

namespace Substitution

open Placeholder

/-- The expression at a place, or nothing at a place that was not handed out. -/
def expression (s : Substitution) (index : Nat) : String :=
  s.expressions[index]?.getD ""

/-- The tokens of a text taken from the substituted document. -/
def tokens (s : Substitution) (text : String) : List Token :=
  Placeholder.tokens s.expressions.length text

/-- The place that a text names when it is just one sentinel. -/
def whole? (s : Substitution) (text : String) : Option Nat :=
  match s.tokens text with
  | [.mark i] => some i
  | _ => none

/-- A text with its sentinels replaced by the placeholders they stand for. -/
def restore (s : Substitution) (text : String) : String :=
  String.ofList ((s.tokens text).flatMap fun
    | .char c => [c]
    | .mark i => (Matcher.brace (s.expression i)).toList)

/-- The sentinels that were handed out, each with its expression. -/
def table (s : Substitution) : List (String × String) :=
  s.expressions.mapIdx fun i e => (String.ofList (sentinel i), e)

end Substitution

end Expectation
