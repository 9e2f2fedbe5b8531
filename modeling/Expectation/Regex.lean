/-!
# Regular expressions and the places they reach

A regular expression is a tree built from tests on one character, assertions
about the two characters around a place, sequence, choice and repetition. The
question asked of it is only whether it matches *somewhere* in a text; which
part it matches does not matter, so neither greed nor the order of choices
plays a role.

The answer is computed on sets of places. The places of a text are the gaps in
front of, between and behind its characters, and a set of places is a list of
marks, one per gap. `Regex.run` takes the places where a match may begin to the
places where it may end. Each operator acts on whole sets: a character test
moves the marks one place to the right, a choice unites two sets, and a
repetition iterates until nothing is added, which happens after at most as many
rounds as there are places. So the cost never depends on how often a part of
the text can be read in different ways.

The relation `Regex.Matches` says the same of one match at a time and is what
statements about regular expressions are made of.
-/

namespace Expectation

/-- Regular expressions. -/
inductive Regex where
  /-- Nothing, at any place. -/
  | empty
  /-- One character that passes a test. -/
  | one (accepts : Char → Bool)
  /-- Nothing, at a place whose neighbours (the character before it and the one
  after it, if any) pass a test. -/
  | look (holds : Option Char → Option Char → Bool)
  /-- The first, then the second. -/
  | seq (first second : Regex)
  /-- Either of the two. -/
  | alt (left right : Regex)
  /-- At least `least` times, and at most `most` times if that is given. -/
  | rep (least : Nat) (most : Option Nat) (body : Regex)

namespace Regex

/-! ## What a match is -/

/-- `Matches r l m rest`: with the characters `l` before it (last one first)
and `rest` after it, the text `m` is a match of `r`. -/
inductive Matches : Regex → List Char → List Char → List Char → Prop where
  | empty {l rest} : Matches .empty l [] rest
  | one {accepts l c rest} (h : accepts c = true) : Matches (.one accepts) l [c] rest
  | look {holds l rest} (h : holds l.head? rest.head? = true) :
      Matches (.look holds) l [] rest
  | seq {r s l m n rest} (hr : Matches r l m (n ++ rest))
      (hs : Matches s (m.reverse ++ l) n rest) : Matches (.seq r s) l (m ++ n) rest
  | left {r s l m rest} (h : Matches r l m rest) : Matches (.alt r s) l m rest
  | right {r s l m rest} (h : Matches s l m rest) : Matches (.alt r s) l m rest
  | done {most r l rest} : Matches (.rep 0 most r) l [] rest
  | more {least most r l m n rest} (hm : most ≠ some 0) (hr : Matches r l m (n ++ rest))
      (hs : Matches (.rep (least - 1) (most.map (· - 1)) r) (m.reverse ++ l) n rest) :
      Matches (.rep least most r) l (m ++ n) rest

/-! ## Sets of places -/

/-- A set of places of a text: one mark per gap, from the front to the end. -/
abbrev Marks := List Bool

/-- The places in either set. -/
def Marks.union (s t : Marks) : Marks :=
  List.zipWith (· || ·) s t

/-- The marks moved over one character that passes a test. -/
def Marks.advance (accepts : Char → Bool) (text : List Char) (s : Marks) : Marks :=
  false :: List.zipWith (fun mark c => mark && accepts c) s text

/-- The neighbours of each place of a text, given the character before it. -/
def neighbours : Option Char → List Char → List (Option Char × Option Char)
  | before, [] => [(before, none)]
  | before, c :: cs => (before, some c) :: neighbours (some c) cs

/-- The marks at places whose neighbours pass a test. -/
def Marks.filter (holds : Option Char → Option Char → Bool) (text : List Char)
    (s : Marks) : Marks :=
  List.zipWith (fun mark place => mark && holds place.1 place.2) s (neighbours none text)

/-- The marks after exactly `n` steps; a set that a step keeps stays as it is. -/
def Marks.times (step : Marks → Marks) : Nat → Marks → Marks
  | 0, s => s
  | n + 1, s =>
    let next := step s
    if next == s then s else times step n next

/-- The marks after at most `n` steps. -/
def Marks.within (step : Marks → Marks) : Nat → Marks → Marks
  | 0, s => s
  | n + 1, s =>
    let next := s.union (step s)
    if next == s then s else within step n next

/-- The places where a match may end that begins at a marked place. -/
def run (text : List Char) : Regex → Marks → Marks
  | .empty => fun s => s
  | .one accepts => Marks.advance accepts text
  | .look holds => Marks.filter holds text
  | .seq r t => fun s => run text t (run text r s)
  | .alt r t => fun s => (run text r s).union (run text t s)
  | .rep least most r => fun s =>
    let rounds := match most with
      | some most => most - least
      | none => text.length + 1
    Marks.within (run text r) rounds (Marks.times (run text r) least s)

/-- Whether the regular expression matches somewhere in the text. -/
def isMatch (r : Regex) (text : String) : Bool :=
  (r.run text.toList (List.replicate (text.toList.length + 1) true)).any id

/-! ## Building blocks -/

/-- The expressions one after the other. -/
def sequence : List Regex → Regex
  | [] => .empty
  | [r] => r
  | r :: rs => .seq r (sequence rs)

/-- Any one of the expressions, of which there is at least one. -/
def choice (r : Regex) : List Regex → Regex
  | [] => r
  | s :: rs => .alt r (choice s rs)

end Regex

end Expectation
