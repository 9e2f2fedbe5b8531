import Expectation.Regex.ByteRange
import Expectation.Regex.Shape
import Std.Data.HashMap

/-!
# The size of a compiled pattern

A pattern is compiled to two programs that read bytes, one forward and one
backward. A program is made of states with links between them. This module does
not build programs, it counts them: how many states there are, and how many
bytes their links take. A pattern is too large if one of its programs is.

The counts follow from the shape part by part. A text has one state for each
byte, a repetition has its body as often as it is allowed to occur, and states
that only join others come on top. The states of a set are shared where the
sequences of byte ranges end alike. Which states can be shared is looked up in a
table of fixed size, where a newcomer takes the place of what it meets there, so
the numbers of states play a role: they are parts of the keys.
-/

namespace Expectation.Regex

/-! ## Counting -/

/-- What has been counted of a program: its states, and the bytes of their links. -/
structure Tally where
  states : Nat
  bytes : Nat
  deriving DecidableEq, Repr

namespace Tally

/-- The tally with more states and bytes. -/
def add (t : Tally) (states bytes : Nat) : Tally := ⟨t.states + states, t.bytes + bytes⟩

/-- The size in bytes; a state takes 32 of them. -/
def size (t : Tally) : Nat := 32 * t.states + t.bytes

/-- The largest size that is allowed: ten mebibytes. -/
def limit : Nat := 10 * 1024 * 1024

end Tally

/-- What a part adds to a program that has been counted up to it. -/
structure Growth where
  apply : Tally → Tally

namespace Growth

/-- A part that adds the same everywhere. -/
def const (states bytes : Nat) : Growth := ⟨fun t => t.add states bytes⟩

/-- One part, then another. -/
def andThen (g h : Growth) : Growth := ⟨fun t => h.apply (g.apply t)⟩

/-- The same part several times. Nothing more is counted beyond the limit. -/
def applyTimes (g : Growth) : Nat → Tally → Tally
  | 0, t => t
  | n + 1, t => if Tally.limit < t.size then t else applyTimes g n (g.apply t)

/-- The same part several times. -/
def times (n : Nat) (g : Growth) : Growth := ⟨g.applyTimes n⟩

end Growth

/-! ## Sets -/

/-- The bytes of a link between states, and of one that depends on the byte read. -/
def linkSize : Nat := 4

def rangeLinkSize : Nat := 8

/-- What has been counted, and the states that can be shared, by their places in a
table: with the key that a state was made for. -/
structure Sharing where
  tally : Tally
  table : Std.HashMap Nat (Array Nat × Nat)

/-- The place of a key in a table. -/
def placeOf (tableSize : UInt64) (key : Array Nat) : Nat :=
  let hash := key.foldl (fun h n => (h ^^^ n.toUInt64) * 1099511628211) 14695981039346656037
  (hash % tableSize).toNat

/-- A new state, which takes a place in the table for its key. It takes so many bytes for
links. -/
def Sharing.fresh (s : Sharing) (place : Nat) (key : Array Nat) (bytes : Nat) : Nat × Sharing :=
  let ⟨tally, table⟩ := s
  (tally.states, ⟨tally.add 1 bytes, table.insert place (key, tally.states)⟩)

/-- The state for a key, which is a new one if the key is not in the table. -/
def Sharing.state (s : Sharing) (tableSize : UInt64) (key : Array Nat) (bytes : Nat) :
    Nat × Sharing :=
  let place := placeOf tableSize key
  match s.table[place]? with
  | some (known, number) => if known == key then (number, s) else s.fresh place key bytes
  | none => s.fresh place key bytes

/-- The sequences grouped by their first ranges, each group with what follows there. -/
def groupByFirst : List (List ByteRange) → List (ByteRange × List (List ByteRange))
  | [] => []
  | [] :: rest => groupByFirst rest
  | (r :: tail) :: rest =>
    match groupByFirst rest with
    | [] => [(r, [tail])]
    | (s, tails) :: more =>
      if r = s then (s, tail :: tails) :: more else (r, [tail]) :: (s, tails) :: more

/-- The state that reads one of the sequences and goes to the state `target`; `depth` is
the length of the longest sequence. -/
def forwardState (target : Nat) : Nat → List (List ByteRange) → Sharing → Nat × Sharing
  | 0, _, s => (target, s)
  | depth + 1, sequences, s =>
    match groupByFirst sequences with
    | [] => (target, s)
    | groups =>
      let (key, s) := groups.foldl (fun (key, s) (range, tails) =>
        let (next, s) := forwardState target depth tails s
        (((key.push range.first.toNat).push range.last.toNat).push next, s))
        ((#[] : Array Nat), s)
      s.state 10000 key (rangeLinkSize * groups.length)

/-- The state that reads a sequence from its last byte back, counted from the state `next`
that follows; `ranges` are given from the first to the last. -/
def backwardState (next : Nat) (ranges : List ByteRange) (s : Sharing) : Nat × Sharing :=
  ranges.foldl (fun (next, s) range =>
    s.state 1000 #[next, range.first.toNat, range.last.toNat] 0) (next, s)

/-- What a set adds. Sets of ASCII characters take one state and its target. -/
def setGrowth (backward : Bool) (ranges : List (Nat × Nat)) : Growth :=
  if ranges.all (·.2 < 0x80) then .const 2 (rangeLinkSize * ranges.length)
  else
    let sequences := byteSequences ranges
    if backward then
      ⟨fun t =>
        let target := t.states + 1
        let start : Sharing := ⟨t.add 2 (linkSize * sequences.length), ∅⟩
        (sequences.foldl (fun s ranges => (backwardState target ranges s).2) start).tally⟩
    else
      ⟨fun t => (forwardState t.states 4 sequences ⟨t.add 1 0, ∅⟩).2.tally⟩

/-! ## Texts to choose from -/

/-- The texts cut at the empty ones, which are counted apart: an empty text closes what
stands before it, and the ones right behind the first of all texts count once. -/
def cutAtEmpty (words : List (List UInt8)) : List (List (List UInt8)) :=
  words.foldr (fun word chunks =>
    match word, chunks with
    | [], chunks => [] :: chunks
    | word, [] => [[word]]
    | word, chunk :: more => (word :: chunk) :: more) [[]]

/-- The texts grouped by their first bytes, each group with what follows there. -/
def groupByByte (words : List (List UInt8)) : List (List (List UInt8)) :=
  let heads := (words.filterMap List.head?).eraseDups
  heads.map fun b => words.filterMap fun word =>
    if word.head? = some b then some word.tail else none

/-- What the choice between texts adds behind their common front: a state for each run
of texts up to an empty one, which tells their next bytes apart, and one that joins the
runs. Nothing is added where all texts end. `depth` is the length of the longest text. -/
def wordsGrowth : Nat → List (List UInt8) → Tally
  | 0, _ => ⟨0, 0⟩
  | depth + 1, words =>
    if words.all List.isEmpty then ⟨0, 0⟩
    else
      let chunks := match cutAtEmpty words with
        | [] :: rest => [] :: rest.dropWhile List.isEmpty
        | chunks => chunks
      let counts := chunks.map fun chunk =>
        let groups := groupByByte chunk
        let inner := groups.foldl (fun t tails =>
          let u := wordsGrowth depth tails
          t.add u.states u.bytes) (⟨0, 0⟩ : Tally)
        match groups.length with
        | 0 => inner
        | 1 => inner.add 1 linkSize
        | n => inner.add 1 (rangeLinkSize * n + linkSize)
      counts.foldl (fun t u => t.add u.states u.bytes) ⟨1, linkSize * (chunks.length - 1)⟩

/-- What the choice between texts adds. -/
def choiceGrowth (backward : Bool) (texts : List (List Char)) : Growth :=
  let words := texts.map fun text =>
    let bytes := text.flatMap String.utf8EncodeChar
    if backward then bytes.reverse else bytes
  let t := wordsGrowth (words.foldr (fun word n => max word.length n) 0) words
  .const (t.states + 1) t.bytes

/-! ## Shapes -/

/-- What a repetition adds, given what its body adds and whether every match of the body
takes a character. -/
def repetitionGrowth (least : Nat) (most : Option Nat) (body : Growth) (takesSome : Bool) :
    Growth :=
  let state := Growth.const 1 0
  let links := Growth.const 0 (2 * linkSize)
  match least, most with
  | 0, some 1 => ((state.andThen body).andThen state).andThen links
  | 0, none =>
    if takesSome then (state.andThen body).andThen links
    else body.andThen (.const 3 (4 * linkSize))
  | least, none => ((body.times least).andThen state).andThen links
  | least, some most =>
    let needed := if least = 0 then state else body.times least
    if most ≤ least then needed
    else
      (needed.andThen state).andThen (((state.andThen body).andThen links).times (most - least))

namespace Shape

/-- The text of a shape that is nothing else. -/
def text? : Shape → Option (List Char)
  | .literal text => some text
  | _ => none

mutual

/-- What a shape adds to the program in a direction. -/
def growth (backward : Bool) : Shape → Growth
  | .empty | .look _ => .const 1 0
  | .literal text => .const (text.foldr (fun c n => c.utf8Size + n) 0) 0
  | .set ranges => setGrowth backward ranges
  | .rep least most _ body =>
    repetitionGrowth least most (growth backward body) (body.takesSome? == some true)
  | .group body =>
    let inner := growth backward body
    if backward then inner else ((Growth.const 1 0).andThen inner).andThen (.const 1 0)
  | .seq parts => sequenceGrowth backward parts
  | .alt branches =>
    match branches.mapM text? with
    | some texts => choiceGrowth backward texts
    | none => (branchesGrowth backward 0 branches).andThen
        (.const 0 (linkSize * branches.length))

/-- What the parts of a sequence add; they are read from the last one when going
`backward`. -/
def sequenceGrowth (backward : Bool) : List Shape → Growth
  | [] => .const 0 0
  | s :: ss =>
    let first := growth backward s
    let others := sequenceGrowth backward ss
    if backward then others.andThen first else first.andThen others

/-- What alternatives add, of which some stand before these; the states that join them
come behind the second. -/
def branchesGrowth (backward : Bool) (before : Nat) : List Shape → Growth
  | [] => .const 0 0
  | s :: ss =>
    let first := growth backward s
    let first := if before = 1 then first.andThen (.const 2 0) else first
    first.andThen (branchesGrowth backward (before + 1) ss)

end

/-- The size of the program of a whole pattern in a direction. A program that is not tied
to where it begins has states to pass over any bytes, and the forward program remembers
where its match begins and ends. -/
def programSize (backward : Bool) (s : Shape) : Nat :=
  let start : Tally :=
    if s.isAnchored backward then ⟨1, 0⟩ else ⟨3, rangeLinkSize + 2 * linkSize⟩
  let body := s.growth backward
  (if backward then (body.apply start).add 1 0
    else (body.apply (start.add 1 0)).add 2 0).size

/-- Whether the shape is a choice between so many texts that they are searched for
without a program. -/
def isWordList : Shape → Bool
  | .alt branches => 3000 ≤ branches.length && branches.all (·.text?.isSome)
  | _ => false

/-- Whether neither program is too large, if there are programs. -/
def fits (s : Shape) : Bool :=
  s.isWordList || (s.programSize false ≤ Tally.limit && s.programSize true ≤ Tally.limit)

end Shape

end Expectation.Regex
