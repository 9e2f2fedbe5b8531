import Expectation.Difference
import Expectation.Html.Node
import Expectation.Html.Options
import Expectation.Pairing

/-!
# Comparing pages

The comparison goes down both trees at once and lists every difference. Only
the *significant* children of an element take part: elements and comments that
the options leave out are dropped on both sides, and so is text without
anything but blanks unless blanks count. Then the children are compared place
by place, or paired first fit where their order does not count.

Texts are compared by their words unless blanks count; attribute values are
always compared as they are.
-/

namespace Expectation.Html

/-- A text as a side of a difference. -/
def textSide (text : String) : Side := .value (.string text)

/-- An attribute value as a side of a difference: a literal is shown as it is,
a rule is described. -/
def Value.side : Value → Side
  | .literal s => textSide s
  | v => .description v.text

namespace Node

/-- Whether a node takes part in the comparison of children. -/
def significant (o : Options) : Node → Bool
  | .element _ tag _ _ => !o.ignoresElement tag
  | .comment .. => !o.ignoreComments
  | .text _ v => o.preserveWhitespace || !v.isBlank
  | .doctype .. => true

end Node

/-- A text as it is compared: by its words unless blanks count. -/
def comparedText (o : Options) (text : String) : String :=
  if o.preserveWhitespace then text else Text.collapse text

/-- The differences between two texts. -/
def compareText (o : Options) (path : String) (expected actual : Value) : List Difference :=
  match expected with
  | .matcher m =>
    let text := comparedText o actual.text
    if m.acceptsText text then []
    else [⟨path, .matcherFailed, .description m.describe, textSide text⟩]
  | .template t =>
    if t.isMatch (!o.preserveWhitespace) actual.text then []
    else [⟨path, .matcherFailed, .description t.describe, textSide actual.text⟩]
  | .literal s =>
    let e := comparedText o s
    let a := comparedText o actual.text
    if e = a then [] else [⟨path, .changed, textSide e, textSide a⟩]

/-- The path of an attribute in a report. -/
def attributePath (path name : String) : String := path ++ " @" ++ name

/-- The differences between two values of an attribute. -/
def compareValue (o : Options) (path : String) (expected actual : Value) : List Difference :=
  let text := actual.text
  match expected with
  | .matcher m =>
    if m.acceptsText text then []
    else [⟨path, .matcherFailed, .description m.describe, textSide text⟩]
  | .template t =>
    if t.isMatch (!o.preserveWhitespace) text then []
    else [⟨path, .matcherFailed, .description t.describe, textSide text⟩]
  | .literal s => if s = text then [] else [⟨path, .changed, textSide s, textSide text⟩]

/-- The differences at the expected attributes of an element. -/
def compareAttributes (o : Options) (path : String) (actual : List (String × Value)) :
    List (String × Value) → List Difference
  | [] => []
  | (name, v) :: rest =>
    (if o.ignoresAttribute path name || v.matcher?.any Matcher.isIgnore then []
     else match Json.lookup name actual with
       | none => [⟨attributePath path name, .removed, v.side, .absent⟩]
       | some w => compareValue o (attributePath path name) v w) ++
      compareAttributes o path actual rest

/-- The attributes of an element that are not expected. -/
def addedAttributes (o : Options) (path : String) (expected : List (String × Value)) :
    List (String × Value) → List Difference
  | [] => []
  | (name, v) :: rest =>
    (if (Json.lookup name expected).isSome || o.ignoresAttribute path name then []
     else [⟨attributePath path name, .added, .absent, v.side⟩]) ++
      addedAttributes o path expected rest

/-- A child that only the expected page has. -/
def removedChild (n : Node) : Difference := ⟨n.path, .removed, .description n.describe, .absent⟩

/-- A child that only the actual page has. -/
def addedChild (n : Node) : Difference := ⟨n.path, .added, .absent, .description n.describe⟩

/-- The number of children in words. -/
def countText (n : Nat) : String := toString n ++ " children"

/-- The differences between children whose order does not count, given for
every expected child the function that lists its differences to an actual one. -/
def compareUnordered (path : String) (trials : List (Node → List Difference))
    (expected actual : List Node) : List Difference :=
  if expected.length ≠ actual.length then
    [⟨if path.isEmpty then documentTag else path, .changed,
      .description (countText expected.length), .description (countText actual.length)⟩]
  else
    (Pairing.unmatched (fun trial n => (trial n).isEmpty) trials actual).map fun (i, j) =>
      let e := expected[i]?.getD default
      ⟨e.path, .changed, .description e.describe,
        match j.bind (actual[·]?) with
        | some a => .description a.describe
        | none => .absent⟩

/-- A node of another kind than expected. -/
def mismatched (path : String) (expected actual : Node) : Difference :=
  ⟨path, .typeMismatch, .description expected.kindName, .description actual.kindName⟩

mutual

/-- The differences between an expected and an actual node. -/
def compare (o : Options) : Node → Node → List Difference
  | .element path tag as cs, actual =>
    if o.ignoresElement tag then []
    else match actual with
      | .element _ other bs ds =>
        if !Text.sameName tag other then
          [⟨path, .changed, .description ("<" ++ tag ++ ">"),
            .description ("<" ++ other ++ ">")⟩]
        else
          let actuals := ds.filter (Node.significant o)
          compareAttributes o path bs as ++ addedAttributes o path as bs ++
            (if o.unordered path then
              compareUnordered path (childTrials o cs) (cs.filter (Node.significant o)) actuals
             else compareChildren o cs actuals)
      | _ => [mismatched path (.element path tag as cs) actual]
  | .text path v, actual =>
    if v.matcher?.any Matcher.isIgnore then []
    else match actual with
      | .text _ w => compareText o path v w
      | _ => [mismatched path (.text path v) actual]
  | .comment path s, actual =>
    match actual with
    | .comment _ t =>
      if o.ignoreComments || s = t then [] else [⟨path, .changed, textSide s, textSide t⟩]
    | _ => [mismatched path (.comment path s) actual]
  | .doctype path s, actual =>
    match actual with
    | .doctype _ t =>
      if Text.sameName s t then [] else [⟨path, .changed, textSide s, textSide t⟩]
    | _ => [mismatched path (.doctype path s) actual]

/-- The differences between the significant ones of the expected children and
the actual children, which are all significant, place by place. -/
def compareChildren (o : Options) : List Node → List Node → List Difference
  | [], actuals => actuals.map addedChild
  | e :: es, actuals =>
    if !e.significant o then compareChildren o es actuals
    else match actuals with
      | [] => removedChild e :: compareChildren o es []
      | a :: as => compare o e a ++ compareChildren o es as

/-- For each significant child the function that lists its differences to an
actual one. -/
def childTrials (o : Options) : List Node → List (Node → List Difference)
  | [] => []
  | e :: es =>
    if !e.significant o then childTrials o es
    else (fun a => compare o e a) :: childTrials o es

end

end Expectation.Html
