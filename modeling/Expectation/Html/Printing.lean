import Expectation.Html.Node
import Expectation.Text.AsciiCase

/-!
# Writing pages

A page is written with one node a line, two blanks of indentation a level, and
its attributes in order. Text without anything but blanks is dropped, an
element that holds nothing but one text stands on one line, and literal text is
escaped as its place demands; matchers are written as placeholders. Void
elements have no children and no closing tag, and the texts of scripts and
styles are not escaped.
-/

namespace Expectation.Html

/-- The elements without children and closing tag. -/
def voidTags : List String :=
  ["area", "base", "br", "col", "embed", "hr", "img", "input", "link", "meta", "param",
    "source", "track", "wbr"]

/-- The elements whose text is not escaped. -/
def rawTags : List String := ["script", "style"]

/-- Whether a tag is among some names, up to ASCII case. -/
def isAmong (names : List String) (tag : String) : Bool := names.any (Text.sameName · tag)

/-- A text with some of the special characters escaped. -/
def escapeText (special : List Char) (cs : List Char) : List Char :=
  cs.flatMap fun c =>
    if special.contains c then
      match c with
      | '&' => "&amp;".toList
      | '<' => "&lt;".toList
      | '>' => "&gt;".toList
      | '"' => "&quot;".toList
      | c => [c]
    else [c]

/-- A text as it is written between tags, without its blank ends. -/
def writtenText (raw : Bool) : Value → String
  | .literal s =>
    let cs := Text.trim s.toList
    String.ofList (if raw then cs else escapeText ['&', '<', '>'] cs)
  | v => Text.trimmed v.text

/-- An attribute value as it is written between quotation marks. -/
def writtenValue : Value → String
  | .literal s => String.ofList (escapeText ['&', '"'] s.toList)
  | v => v.text

/-- The attributes of an opening tag. -/
def writtenAttributes (as : List (String × Value)) : String :=
  String.join (as.map fun (name, v) => " " ++ name ++ "=\"" ++ writtenValue v ++ "\"")

/-- The front of a line at a depth. -/
def indent (depth : Nat) : String := String.ofList (List.replicate (2 * depth) ' ')

namespace Node

mutual

/-- The lines of a node at a depth; `raw` says whether texts stay unescaped. -/
def prettyAt (depth : Nat) (raw : Bool) : Node → String
  | .element _ tag as cs =>
    if tag = documentTag then "\n".intercalate (prettyList depth false cs)
    else
      let opening := indent depth ++ "<" ++ tag ++ writtenAttributes as ++ ">"
      let closing := "</" ++ tag ++ ">"
      if isAmong voidTags tag then opening
      else
        let raw := isAmong rawTags tag
        match cs.filter (!·.isBlankText) with
        | [] => opening ++ closing
        | [.text _ v] => opening ++ writtenText raw v ++ closing
        | _ =>
          opening ++ "\n" ++ "\n".intercalate (prettyList (depth + 1) raw cs) ++ "\n" ++
            indent depth ++ closing
  | .text _ v => indent depth ++ writtenText raw v
  | .comment _ s => indent depth ++ "<!-- " ++ Text.trimmed s ++ " -->"
  | .doctype _ name => indent depth ++ "<!DOCTYPE " ++ name ++ ">"

/-- The lines of the nodes that are not blank. -/
def prettyList (depth : Nat) (raw : Bool) : List Node → List String
  | [] => []
  | n :: ns =>
    if n.isBlankText then prettyList depth raw ns
    else prettyAt depth raw n :: prettyList depth raw ns

end

/-- The page over several lines. -/
def pretty (n : Node) : String := n.prettyAt 0 false

/-- The text of an expected page that is brought up to date: the actual page. -/
def expectedText (n : Node) : String := n.pretty ++ "\n"

end Node

end Expectation.Html
