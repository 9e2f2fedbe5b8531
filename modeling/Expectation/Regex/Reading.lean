import Expectation.Regex.Class
import Expectation.Regex.Program
import Expectation.Unicode.Recent

/-!
# Reading a pattern

A pattern is read from left to right with a stack of open groups. The state
holds what has been read on the current level: the pieces of the alternative
being read, the alternatives already finished, and the flags in force. A group
opens a new level and its end puts the level back as one piece, so each part of
a pattern acts on the state alone and parts compose.

A pattern is refused when it is malformed, which nesting its parts too deeply is
too, or when its compiled form would be too large. The last is judged by the
shape that every piece carries beside its regular expression.
-/

namespace Expectation.Regex

/-- Why a pattern is not accepted. -/
inductive Refusal where
  | malformed
  | tooLarge
  deriving DecidableEq, Repr

/-- A part of a pattern that has been read: what it matches, how deeply its parts
nest, and its shape. -/
structure Piece where
  regex : Regex
  depth : Nat
  shape : Shape

/-- What stands in a sequence: a piece, or a setting of flags, which cannot be
repeated. -/
inductive Item where
  | piece (p : Piece)
  | setting

/-- An enclosing level while a group is open, and whether the match of the group is
remembered. -/
structure Level where
  remembers : Bool
  items : List Item
  branches : List Piece
  flags : Flags

/-- What has been read of a pattern. Items and branches are kept last first. -/
structure State where
  items : List Item := []
  branches : List Piece := []
  flags : Flags := {}
  levels : List Level := []
  names : List (List Char) := []

/-! ## Pieces from pieces -/

/-- The piece for a set of characters. -/
def setPiece (depth : Nat) (s : CharSet) : Piece := ⟨.one s.accepts, depth, .ofRanges s.ranges⟩

/-- The piece for a question about a place. -/
def lookPiece (l : Look) : Piece := ⟨.look l.holds, 0, .look l⟩

/-- The piece for one character. -/
def charPiece (flags : Flags) (c : Char) : Piece :=
  let s :=
    if !flags.ignoreCase then CharSet.single c
    else if flags.unicode then CharSet.ofList (Unicode.caseVariants c)
    else (CharSet.single c).asciiFolded
  setPiece 0 s

/-- The piece for an atom. -/
def Atom.piece (flags : Flags) : Atom → Piece
  | .char c => charPiece flags c
  | .set s => setPiece 0 s
  | .look l => lookPiece l

/-- The pieces among items that are given last first, in reading order. -/
def piecesOf (items : List Item) : List Piece :=
  items.reverse.filterMap fun
    | .piece p => some p
    | .setting => none

/-- The pieces of a sequence joined. A sequence of one item is that item. -/
def joinItems (items : List Item) : Piece :=
  let pieces := piecesOf items
  let depth := pieces.foldr (fun p d => max p.depth d) 0
  ⟨sequence (pieces.map Piece.regex),
   if items.length ≤ 1 then depth else depth + 1,
   .sequence (pieces.map Piece.shape)⟩

/-- The alternatives of a level joined, with the one being read last. -/
def joinBranches (items : List Item) (branches : List Piece) : Piece :=
  let last := joinItems items
  match branches.reverse with
  | [] => last
  | first :: others =>
    let all := others ++ [last]
    ⟨choice first.regex (all.map Piece.regex),
     all.foldr (fun p d => max p.depth d) first.depth + 1,
     .choice (first.shape :: all.map Piece.shape)⟩

/-- A piece repeated. -/
def Piece.repeated (least : Nat) (most : Option Nat) (greedy : Bool) (p : Piece) : Piece :=
  ⟨.rep least most p.regex, p.depth + 1, .repetition least most greedy p.shape⟩

/-- The state with one more item. -/
def State.push (st : State) (p : Piece) : State :=
  { st with items := .piece p :: st.items }

/-- The state with its last piece repeated, and the rest of the pattern without the
mark of a reluctant repetition. Nothing can be repeated at the front of a sequence or
after a setting of flags. -/
def State.repeatLast (st : State) (least : Nat) (most : Option Nat) (rest : List Char) :
    Reading State :=
  match st.items with
  | .piece p :: items =>
    let (greedy, rest) := match rest with
      | '?' :: rest => (st.flags.swapGreed, rest)
      | rest => (!st.flags.swapGreed, rest)
    some ({ st with items := .piece (p.repeated least most greedy) :: items }, rest)
  | _ => none

/-! ## Repetition counts -/

/-- The decimal digits at the front, with blanks in verbose patterns between
them. -/
def countDigits (flags : Flags) : Nat → List Char → List Char × List Char
  | 0, cs => ([], cs)
  | fuel + 1, cs =>
    match cs with
    | [] => ([], [])
    | c :: rest =>
      if c.isDigit then
        let (ds, after) := countDigits flags fuel (skip flags rest)
        (c :: ds, after)
      else ([], c :: rest)

/-- A count: blanks, digits, blanks. A count has to be below `2 ^ 32`. -/
def count (flags : Flags) (cs : List Char) : Reading (Option Nat) :=
  let cs := cs.dropWhile Text.isBlank
  let (ds, after) := countDigits flags cs.length cs
  let after := skip flags (after.dropWhile Text.isBlank)
  if ds.isEmpty then some (none, after)
  else
    let n := ds.foldl (fun n d => 10 * n + (d.toNat - 48)) 0
    if n < Nat.pow 2 32 then some (some n, after) else none

/-- A repetition in braces, after the opening brace. -/
def braces (flags : Flags) (cs : List Char) : Reading (Nat × Option Nat) :=
  match skip flags cs with
  | [] => none
  | cs =>
    match count flags cs with
    | some (least, ',' :: rest) =>
      match least, skip flags rest with
      | some least, '\x7D' :: rest => some ((least, none), skip flags rest)
      | some least, rest =>
        match count flags rest with
        | some (some most, '\x7D' :: rest) =>
          if least ≤ most then some ((least, some most), skip flags rest)
          else none
        | _ => none
      | none, _ => none
    | some (some n, '\x7D' :: rest) => some ((n, some n), skip flags rest)
    | _ => none

/-! ## Groups -/

/-- The flags named between the question mark of a group and its colon or
closing parenthesis: the new flags, and how many there were. A minus turns the
flags after it off; no flag and no minus may come twice. -/
def readFlags (flags : Flags) (off : Bool) (seen : List Char) :
    List Char → Reading (Flags × List Char)
  | [] => none
  | c :: cs =>
    if c = ':' || c = ')' then
      if seen.head? = some '-' then none else some ((flags, seen), c :: cs)
    else if seen.contains c then none
    else
      match c with
      | '-' => readFlags flags true ('-' :: seen) cs
      | 'i' => readFlags { flags with ignoreCase := !off } off (c :: seen) cs
      | 'm' => readFlags { flags with multiLine := !off } off (c :: seen) cs
      | 's' => readFlags { flags with dotAll := !off } off (c :: seen) cs
      | 'R' => readFlags { flags with crlf := !off } off (c :: seen) cs
      | 'x' => readFlags { flags with verbose := !off } off (c :: seen) cs
      | 'u' => readFlags { flags with unicode := !off } off (c :: seen) cs
      | 'U' => readFlags { flags with swapGreed := !off } off (c :: seen) cs
      | _ => none

/-- Whether a character may stand in the name of a group. -/
def isNameChar (first : Bool) (c : Char) : Bool :=
  if first then c == '_' || Unicode.isAlphabeticNow c
  else c == '_' || c == '.' || c == '[' || c == ']' || Unicode.isAlphanumericNow c

/-- The name of a group up to its closing angle. -/
def groupName (cs : List Char) : Reading (List Char) :=
  match cs.dropWhile (· != '>') with
  | [] => none
  | _ :: after =>
    match cs.takeWhile (· != '>') with
    | [] => none
    | c :: name =>
      if isNameChar true c && name.all (isNameChar false) then some (c :: name, after) else none

/-- The state with a new level, whose flags are given. -/
def State.enter (st : State) (remembers : Bool) (flags : Flags) : State :=
  { st with
    items := [], branches := [], flags
    levels := ⟨remembers, st.items, st.branches, st.flags⟩ :: st.levels }

/-- The state after a named group has been opened; a name is used only once. -/
def State.enterNamed (st : State) (cs : List Char) : Reading State :=
  match groupName cs with
  | some (name, after) =>
    if st.names.contains name then none
    else some ({ st.enter true st.flags with names := name :: st.names }, after)
  | none => none

/-- The state after an opening parenthesis and what belongs to it. -/
def State.openGroup (st : State) (cs : List Char) : Reading State :=
  match skip st.flags cs with
  | '?' :: '=' :: _ => none
  | '?' :: '!' :: _ => none
  | '?' :: '<' :: '=' :: _ => none
  | '?' :: '<' :: '!' :: _ => none
  | '?' :: 'P' :: '<' :: rest => st.enterNamed rest
  | '?' :: '<' :: rest => st.enterNamed rest
  | '?' :: rest =>
    match readFlags st.flags false [] rest with
    | some ((flags, _), ':' :: after) => some (st.enter false flags, after)
    | some ((flags, _ :: _), ')' :: after) =>
      some ({ st with flags, items := .setting :: st.items }, after)
    | _ => none
  | rest => some (st.enter true st.flags, rest)

/-- The state after a closing parenthesis: the level becomes one piece of the
level around it. -/
def State.closeGroup (st : State) : Option State :=
  match st.levels with
  | [] => none
  | level :: levels =>
    let body := joinBranches st.items st.branches
    let shape := if level.remembers then .group body.shape else body.shape
    some
      { st with
        items := .piece ⟨body.regex, body.depth + 1, shape⟩ :: level.items
        branches := level.branches
        flags := level.flags
        levels }

/-! ## The whole pattern -/

/-- The set of the dot. -/
def dotSet (flags : Flags) : CharSet :=
  if flags.dotAll then .full
  else if flags.crlf then (CharSet.ofList ['\n', '\r']).compl
  else (CharSet.single '\n').compl

/-- One step: the next part of a pattern, which begins with `c`. -/
def State.step (st : State) (c : Char) (rest : List Char) : Reading State :=
  match c with
  | '(' => st.openGroup rest
  | ')' => st.closeGroup.map (·, rest)
  | '|' => some ({ st with items := [], branches := joinItems st.items :: st.branches }, rest)
  | '[' => (bracketClass st.flags rest).map fun (b, after) =>
      (st.push (setPiece b.depth b.set), after)
  | '?' => st.repeatLast 0 (some 1) rest
  | '*' => st.repeatLast 0 none rest
  | '+' => st.repeatLast 1 none rest
  | '\x7B' =>
    match braces st.flags rest with
    | some ((least, most), after) => st.repeatLast least most after
    | none => none
  | '\\' => (escape st.flags rest).map fun (atom, after) => (st.push (atom.piece st.flags), after)
  | '.' => if st.flags.unicode then some (st.push (setPiece 0 (dotSet st.flags)), rest) else none
  | '^' => some (st.push (lookPiece (startLook st.flags)), rest)
  | '$' => some (st.push (lookPiece (endLook st.flags)), rest)
  | c => some (st.push (charPiece st.flags c), rest)

/-- Reads the rest of a pattern; every step takes at least one character, so
`fuel` steps are enough for as many characters. -/
def readParts : Nat → State → List Char → Option State
  | fuel, st, cs =>
    match skip st.flags cs, fuel with
    | [], _ => some st
    | _ :: _, 0 => none
    | c :: rest, fuel + 1 =>
      match st.step c rest with
      | some (st, rest) => readParts fuel st rest
      | none => none

/-- How deeply the parts of a pattern may nest. -/
def depthLimit : Nat := 250

/-- The regular expression that a pattern denotes, if it is accepted. -/
def ofPattern (pattern : String) : Except Refusal Regex :=
  match readParts pattern.toList.length {} pattern.toList with
  | some st =>
    let whole := joinBranches st.items st.branches
    if st.levels.isEmpty && whole.depth ≤ depthLimit then
      if whole.shape.fits then .ok whole.regex else .error .tooLarge
    else .error .malformed
  | none => .error .malformed

/-- A text as a pattern that matches just that text. -/
def escapeText (cs : List Char) : List Char :=
  cs.flatMap fun c => if isMeta c then ['\\', c] else [c]

end Expectation.Regex
