import Expectation.Regex.Look
import Expectation.Unicode.RangeAlgebra

/-!
# The shape of a pattern

How large a program a pattern compiles to depends on its *shape*: on the literal
texts, sets and questions in it and on how they are put together, not on what
they mean. Shapes are kept simple as they are built. In a sequence, sequences
inside are opened, neighbouring texts are joined and parts that take nothing are
left out. Among alternatives, alternatives inside are opened, single characters
become one set, sets become one set, and a front that all alternatives share is
taken out.

## Main definitions

* `Shape.ofRanges`, `Shape.repetition`, `Shape.sequence`, `Shape.choice`: the
  simple shape of a set, a repetition, a sequence and a choice.
* `Shape.takesNone`, `Shape.takesSome?`, `Shape.isAnchored`: what a program needs to
  know about all matches of a shape.
-/

namespace Expectation.Regex

/-- The shape of a pattern. -/
inductive Shape where
  | empty
  | literal (text : List Char)
  /-- One character from the ranges, which are in normal form. -/
  | set (ranges : List (Nat × Nat))
  | look (l : Look)
  | rep (least : Nat) (most : Option Nat) (greedy : Bool) (body : Shape)
  /-- A group whose match is remembered. -/
  | group (body : Shape)
  | seq (parts : List Shape)
  | alt (branches : List Shape)

namespace Shape

/-! ## Comparing shapes -/

mutual

/-- Whether two parts of a pattern are the same. Groups are numbered, so no group is the
same as another. -/
def alike : Shape → Shape → Bool
  | .empty, .empty => true
  | .literal s, .literal t => s == t
  | .set r, .set s => r == s
  | .look l, .look m => l == m
  | .rep least most greedy s, .rep least' most' greedy' t =>
    least == least' && most == most' && greedy == greedy' && alike s t
  | .seq s, .seq t => allAlike s t
  | .alt s, .alt t => allAlike s t
  | _, _ => false

/-- Whether the parts of two lists are the same one by one. -/
def allAlike : List Shape → List Shape → Bool
  | [], [] => true
  | s :: ss, t :: ts => alike s t && allAlike ss ts
  | _, _ => false

end

/-! ## What all matches have in common -/

mutual

/-- Whether no match takes a character. -/
def takesNone : Shape → Bool
  | .empty | .look _ => true
  | .literal _ | .set _ => false
  | .rep _ _ _ body | .group body => takesNone body
  | .seq parts => allTakeNone parts
  | .alt branches => allTakeNone branches

/-- Whether no match of any of the shapes takes a character. -/
def allTakeNone : List Shape → Bool
  | [] => true
  | s :: ss => takesNone s && allTakeNone ss

end

mutual

/-- Whether every match takes a character. There is no answer if a set in the shape is
empty. -/
def takesSome? : Shape → Option Bool
  | .empty | .look _ => some false
  | .literal _ => some true
  | .set ranges => if ranges.isEmpty then none else some true
  | .rep least _ _ body => (takesSome? body).map (0 < least && ·)
  | .group body => takesSome? body
  | .seq parts => (allTakeSome? parts).map (·.any id)
  | .alt branches => (allTakeSome? branches).map (·.all id)

/-- The answers for all shapes of a list, if there are any. -/
def allTakeSome? : List Shape → Option (List Bool)
  | [] => some []
  | s :: ss =>
    match takesSome? s, allTakeSome? ss with
    | some b, some bs => some (b :: bs)
    | _, _ => none

end

mutual

/-- Whether every match is tied to the front of the text, or to its end when going
`backward`. -/
def isAnchored (backward : Bool) : Shape → Bool
  | .empty | .literal _ | .set _ => false
  | .look l => l == if backward then .textEnd else .textStart
  | .rep least _ _ body => 0 < least && isAnchored backward body
  | .group body => isAnchored backward body
  | .seq parts =>
    if backward then isAnchoredBack parts else isAnchoredFront parts
  | .alt branches => areAnchored backward branches

/-- Whether a part ties a sequence to the front of the text: no part before it takes a
character. -/
def isAnchoredFront : List Shape → Bool
  | [] => false
  | s :: ss => isAnchored false s || (takesNone s && isAnchoredFront ss)

/-- Whether a part ties a sequence to the end of the text. -/
def isAnchoredBack : List Shape → Bool
  | [] => false
  | s :: ss => isAnchoredBack ss || (allTakeNone ss && isAnchored true s)

/-- Whether all shapes of a list are tied. -/
def areAnchored (backward : Bool) : List Shape → Bool
  | [] => true
  | s :: ss => isAnchored backward s && areAnchored backward ss

end

/-! ## Simple shapes -/

/-- The shape of a set of characters with ranges in normal form; a single character is a
text. -/
def ofRanges : List (Nat × Nat) → Shape
  | [(first, last)] =>
    if first = last then .literal [Char.ofNat first] else .set [(first, last)]
  | ranges => .set ranges

/-- The shape of a repetition. What takes no character is not repeated more than once. -/
def repetition (least : Nat) (most : Option Nat) (greedy : Bool) (body : Shape) : Shape :=
  let (least, most) :=
    if body.takesNone then (min least 1, some (min (most.getD 1) 1)) else (least, most)
  match least, most with
  | 0, some 0 => .empty
  | 1, some 1 => body
  | least, most => .rep least most greedy body

/-- The parts of a sequence. -/
def parts : Shape → List Shape
  | .seq ps => ps
  | s => [s]

/-- Neighbouring texts joined and parts left out that take nothing. -/
def mergeParts : List Shape → List Shape
  | [] => []
  | .empty :: rest => mergeParts rest
  | .literal s :: rest =>
    match mergeParts rest with
    | .literal t :: more => .literal (s ++ t) :: more
    | more => .literal s :: more
  | s :: rest => s :: mergeParts rest

/-- The shape of a sequence. -/
def sequence (shapes : List Shape) : Shape :=
  match mergeParts (shapes.flatMap parts) with
  | [] => .empty
  | [s] => s
  | ss => .seq ss

/-- The alternatives of a choice. -/
def branches : Shape → List Shape
  | .alt bs => bs
  | s => [s]

/-- The range of a single character. -/
def charRange? : Shape → Option (Nat × Nat)
  | .literal [c] => some (c.toNat, c.toNat)
  | _ => none

/-- The ranges of a set. -/
def setRanges? : Shape → Option (List (Nat × Nat))
  | .set ranges => some ranges
  | _ => none

/-- The parts of a sequence, if it is one. -/
def sequenceParts? : Shape → Option (List Shape)
  | .seq ps => some ps
  | _ => none

/-- A choice that is one set. -/
def setOf? (shapes : List Shape) : Option Shape :=
  (shapes.mapM charRange? <|> (shapes.mapM setRanges?).map List.flatten).map fun ranges =>
    ofRanges (Unicode.normalRanges ranges)

/-- The parts at the front that two sequences share. -/
def sharedFront : List Shape → List Shape → List Shape
  | s :: ss, t :: ts => if alike s t then s :: sharedFront ss ts else []
  | _, _ => []

/-- The parts at the front that all sequences share. -/
def commonFront : List (List Shape) → List Shape
  | [] => []
  | [ss] => ss
  | ss :: rest => sharedFront ss (commonFront rest)

/-- A choice between alternatives that share no front. -/
def plainChoice (shapes : List Shape) : Shape :=
  let all := shapes.flatMap branches
  (setOf? all).getD (.alt all)

/-- The shape of a choice. -/
def choice (shapes : List Shape) : Shape :=
  match shapes.flatMap branches with
  | [] => .set []
  | [s] => s
  | all =>
    let whole := plainChoice all
    match whole, all.mapM sequenceParts? with
    | .alt _, some (first :: rest) =>
      match commonFront (first :: rest) with
      | [] => whole
      | front =>
        sequence (front ++
          [plainChoice ((first :: rest).map fun ss => sequence (ss.drop front.length))])
    | _, _ => whole

end Shape

end Expectation.Regex
