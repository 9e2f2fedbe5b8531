import Expectation.Unicode.Word

/-!
# Places that a pattern asks about

Some parts of a pattern take no character and ask about the place where they
stand: whether a text, a line or a word begins or ends there. The answer depends
on the two characters around the place alone.
-/

namespace Expectation.Regex

/-- What can be asked about a place and the words around it. -/
inductive WordEdge where
  /-- A word begins or ends. -/
  | boundary
  /-- No word begins or ends. -/
  | inside
  /-- A word begins. -/
  | start
  /-- A word ends. -/
  | finish
  /-- No word stands before the place. -/
  | startHalf
  /-- No word stands after the place. -/
  | finishHalf
  deriving DecidableEq, Repr

/-- What can be asked about a place. -/
inductive Look where
  | textStart
  | textEnd
  /-- The front of a line; the switch says whether a carriage return ends a line too. -/
  | lineStart (crlf : Bool)
  /-- The end of a line. -/
  | lineEnd (crlf : Bool)
  /-- The words around a place; the switch says whether words have ASCII characters only. -/
  | word (edge : WordEdge) (ascii : Bool)
  deriving DecidableEq, Repr

/-- Whether a word stands on the left and on the right, put to a question. -/
def WordEdge.holds (edge : WordEdge) (left right : Bool) : Bool :=
  match edge with
  | .boundary => left != right
  | .inside => left == right
  | .start => !left && right
  | .finish => left && !right
  | .startHalf => !left
  | .finishHalf => !right

/-- Whether the answer is yes at a place, given the characters around it. -/
def Look.holds (look : Look) (before after : Option Char) : Bool :=
  match look with
  | .textStart => before.isNone
  | .textEnd => after.isNone
  | .lineStart false => before.isNone || before == some '\n'
  | .lineStart true =>
    before.isNone || before == some '\n' || (before == some '\r' && after != some '\n')
  | .lineEnd false => after.isNone || after == some '\n'
  | .lineEnd true =>
    after.isNone || after == some '\r' || (after == some '\n' && before != some '\r')
  | .word edge ascii =>
    let isWord := if ascii then Unicode.isAsciiWordChar else Unicode.isWordChar
    edge.holds (before.any isWord) (after.any isWord)

end Expectation.Regex
