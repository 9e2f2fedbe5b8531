import Expectation.Regex.CharSet
import Expectation.Regex.Look

/-!
# Reading the atoms of a pattern

An atom is what stands for one place or one character of a pattern: a
character, an escape, a property, or a class in brackets. The meaning of an
atom depends on the flags in force, so every function here takes the flags and
the rest of the pattern and gives the atom and what is left, or nothing when
the pattern is malformed. There is no account of the reason: a pattern is
either accepted or not.

With the flag `verbose`, blank characters and comments between the parts of a
pattern are skipped; `skip` does it, and does nothing without the flag.

Without the flag `unicode` a class holds bytes. A pattern must never match a
part of a character, so then every class has to stay below 128, which no
complement does.
-/

namespace Expectation.Regex

/-- The switches that a pattern can turn on and off. -/
structure Flags where
  ignoreCase : Bool := false
  multiLine : Bool := false
  dotAll : Bool := false
  crlf : Bool := false
  verbose : Bool := false
  /-- Repetitions are reluctant unless marked. -/
  swapGreed : Bool := false
  unicode : Bool := true

/-- A step of reading: nothing, or a value and the rest of the pattern. -/
abbrev Reading (α : Type) := Option (α × List Char)

/-! ## Blanks and comments in verbose patterns -/

/-- The pattern after the blanks and comments in front of it; the switch says
whether a comment is being read. -/
def skipComments : Bool → List Char → List Char
  | _, [] => []
  | true, c :: cs => skipComments (c != '\n') cs
  | false, c :: cs =>
    if Text.isBlank c then skipComments false cs
    else if c = '#' then skipComments true cs
    else c :: cs

/-- Skips blanks and comments if the flags say so. -/
def skip (flags : Flags) (cs : List Char) : List Char :=
  if flags.verbose then skipComments false cs else cs

/-- The character that counts as the next but one when a class looks ahead. In
verbose patterns blanks and one comment sign are passed over. -/
def peek (flags : Flags) (cs : List Char) : Option Char :=
  if flags.verbose then
    match cs.dropWhile Text.isBlank with
    | '#' :: rest =>
      match rest.dropWhile Text.isBlank with
      | [] => cs.head?
      | c :: _ => some c
    | [] => cs.head?
    | c :: _ => some c
  else cs.head?

/-! ## Escapes -/

/-- What an escape or a plain character stands for. -/
inductive Atom where
  | char (c : Char)
  | set (s : CharSet)
  | look (l : Look)

def isHex (c : Char) : Bool :=
  c.isDigit || ('a' ≤ c && c ≤ 'f') || ('A' ≤ c && c ≤ 'F')

def hexValue (c : Char) : Nat :=
  if c.isDigit then c.toNat - 48 else if 'a' ≤ c then c.toNat - 87 else c.toNat - 55

/-- The character with a code point given in hexadecimal digits. -/
def charOfHex? (digits : List Char) : Option Char :=
  let n := digits.foldl (fun n d => 16 * n + hexValue d) 0
  if n < 0xD800 || (0xE000 ≤ n && n < 0x110000) then some (Char.ofNat n) else none

/-- The characters that have a meaning in patterns and are escaped to lose it. -/
def isMeta (c : Char) : Bool :=
  ['\\', '.', '+', '*', '?', '(', ')', '|', '[', ']', '\x7B', '\x7D', '^', '$', '#', '&',
    '-', '~'].contains c

/-- Exactly `n` hexadecimal digits. -/
def hexDigits (flags : Flags) : Nat → List Char → Reading (List Char)
  | 0, cs => some ([], cs)
  | n + 1, cs =>
    match cs with
    | [] => none
    | c :: rest =>
      if isHex c then
        (hexDigits flags n (skip flags rest)).map fun (ds, after) => (c :: ds, after)
      else none

/-- Hexadecimal digits up to a closing brace; `fuel` bounds their number. -/
def bracedHex (flags : Flags) : Nat → List Char → Reading (List Char)
  | 0, _ => none
  | fuel + 1, cs =>
    match skip flags cs with
    | [] => none
    | c :: rest =>
      if c = '\x7D' then some ([], rest)
      else if isHex c then
        (bracedHex flags fuel rest).map fun (ds, after) => (c :: ds, after)
      else none

/-- An escape by code point: `count` digits, or any number in braces. -/
def hexEscape (flags : Flags) (count : Nat) (cs : List Char) : Reading Char :=
  match skip flags cs with
  | '\x7B' :: rest =>
    match bracedHex flags (rest.length + 1) rest with
    | some ([], _) => none
    | some (ds, after) => (charOfHex? ds).map (·, skip flags after)
    | none => none
  | cs =>
    match hexDigits flags count cs with
    | some (ds, after) =>
      match charOfHex? ds with
      | some c =>
        -- two digits without the flag `unicode` are a byte
        if !flags.unicode && count == 2 && 127 < c.toNat then none else some (c, after)
      | none => none
    | none => none

/-- The name of a property up to the closing brace. -/
def bracedName (flags : Flags) : Nat → List Char → Reading (List Char)
  | 0, _ => none
  | fuel + 1, cs =>
    match skip flags cs with
    | [] => none
    | c :: rest =>
      if c = '\x7D' then some ([], rest)
      else (bracedName flags fuel rest).map fun (name, after) => (c :: name, after)

/-- Cuts a text at the first occurrence of `sep`. -/
def cutAt (sep : List Char) : List Char → Option (List Char × List Char)
  | [] => if sep.isEmpty then some ([], []) else none
  | c :: cs =>
    if sep.isPrefixOf (c :: cs) then some ([], (c :: cs).drop sep.length)
    else (cutAt sep cs).map fun (front, back) => (c :: front, back)

/-- The set of a property written in braces, a name or a name and a value, and
whether an exclamation mark between name and value negates it. -/
def propertySet? (body : List Char) : Option (Bool × CharSet) :=
  match cutAt ['!', '='] body with
  | some (name, value) => (CharSet.propertyValue? name value).map (true, ·)
  | none =>
    match cutAt [':'] body <|> cutAt ['='] body with
    | some (name, value) => (CharSet.propertyValue? name value).map (false, ·)
    | none => (CharSet.property? body).map (false, ·)

/-- Case variants and complement, as the flags and the class ask for. -/
def finishSet (flags : Flags) (negated : Bool) (s : CharSet) : Option CharSet :=
  let s := if flags.ignoreCase then (if flags.unicode then s.folded else s.asciiFolded) else s
  if negated then (if flags.unicode then some s.compl else none) else some s

/-- A property escape, after its letter. -/
def propertyEscape (flags : Flags) (negated : Bool) (cs : List Char) : Reading CharSet :=
  if !flags.unicode then none
  else match skip flags cs with
    | [] => none
    | '\x7B' :: rest =>
      match bracedName flags (rest.length + 1) rest with
      | some (body, after) =>
        ((propertySet? body).bind fun (unequal, s) => finishSet flags (negated != unequal) s).map
          (·, after)
      | none => none
    | c :: rest =>
      if c = '\\' then none
      else ((CharSet.property? [c]).bind (finishSet flags negated)).map (·, skip flags rest)

/-- One of the classes named by a single letter. -/
def letterClass (flags : Flags) (negated : Bool) (wide ascii : CharSet) : Option CharSet :=
  if flags.unicode then some (if negated then wide.compl else wide)
  else if negated then none else some ascii

/-! ## Assertions -/

/-- A question about the words around a place. -/
def wordLook (flags : Flags) (edge : WordEdge) : Look := .word edge !flags.unicode

/-- The front of the text, or of a line. -/
def startLook (flags : Flags) : Look :=
  if flags.multiLine then .lineStart flags.crlf else .textStart

/-- The end of the text, or of a line. -/
def endLook (flags : Flags) : Look :=
  if flags.multiLine then .lineEnd flags.crlf else .textEnd

/-- The assertion on word boundaries with a name in braces. -/
def boundaryNamed? (name : String) : Option WordEdge :=
  match name with
  | "start" => some .start
  | "end" => some .finish
  | "start-half" => some .startHalf
  | "end-half" => some .finishHalf
  | _ => none

def isBoundaryNameChar (c : Char) : Bool := c.isAlpha || c == '-'

/-- The letters of a boundary name. -/
def boundaryName (flags : Flags) : Nat → List Char → List Char × List Char
  | 0, cs => ([], cs)
  | fuel + 1, cs =>
    match cs with
    | [] => ([], [])
    | c :: rest =>
      if isBoundaryNameChar c then
        let (name, after) := boundaryName flags fuel (skip flags rest)
        (c :: name, after)
      else ([], c :: rest)

/-- The assertion of a word boundary, after its letter. A brace that does not
begin a name belongs to what follows. -/
def wordBoundary (flags : Flags) (cs : List Char) : Reading Atom :=
  let plain : Atom := .look (wordLook flags .boundary)
  match cs with
  | '\x7B' :: rest =>
    match skip flags rest with
    | [] => none
    | c :: inside =>
      if isBoundaryNameChar c then
        match boundaryName flags (rest.length + 1) (c :: inside) with
        | (name, '\x7D' :: after) =>
          (boundaryNamed? (String.ofList name)).map fun edge =>
            (.look (wordLook flags edge), after)
        | _ => none
      else some (plain, cs)
  | _ => some (plain, cs)

/-- An escape, after the backslash. -/
def escape (flags : Flags) (cs : List Char) : Reading Atom :=
  let letter (negated : Bool) (wide ascii : CharSet) (rest : List Char) : Reading Atom :=
    (letterClass flags negated wide ascii).map (.set ·, rest)
  match cs with
  | [] => none
  | c :: rest =>
    match c with
    | 'x' => (hexEscape flags 2 rest).map fun (d, after) => (.char d, after)
    | 'u' => (hexEscape flags 4 rest).map fun (d, after) => (.char d, after)
    | 'U' => (hexEscape flags 8 rest).map fun (d, after) => (.char d, after)
    | 'p' => (propertyEscape flags false rest).map fun (s, after) => (.set s, after)
    | 'P' => (propertyEscape flags true rest).map fun (s, after) => (.set s, after)
    | 'd' => letter false CharSet.decimalDigit CharSet.asciiDigit rest
    | 'D' => letter true CharSet.decimalDigit CharSet.asciiDigit rest
    | 's' => letter false CharSet.blank CharSet.asciiBlank rest
    | 'S' => letter true CharSet.blank CharSet.asciiBlank rest
    | 'w' => letter false CharSet.word CharSet.asciiWord rest
    | 'W' => letter true CharSet.word CharSet.asciiWord rest
    | 'a' => some (.char '\x07', rest)
    | 'f' => some (.char '\x0C', rest)
    | 't' => some (.char '\t', rest)
    | 'n' => some (.char '\n', rest)
    | 'r' => some (.char '\r', rest)
    | 'v' => some (.char '\x0B', rest)
    | 'A' => some (.look .textStart, rest)
    | 'z' => some (.look .textEnd, rest)
    | 'b' => wordBoundary flags rest
    | 'B' => some (.look (wordLook flags .inside), rest)
    | '<' => some (.look (wordLook flags .start), rest)
    | '>' => some (.look (wordLook flags .finish), rest)
    | c =>
      if c.toNat < 128 && !c.isAlphanum then some (.char c, rest) else none

/-! ## Classes in brackets -/

/-- A set of characters and the depth of the brackets in it. -/
structure Bracketed where
  set : CharSet
  depth : Nat

/-- A class named between colons, such as the digits, if one stands here, and
whether it is negated. -/
def colonClass? (cs : List Char) : Reading (Bool × CharSet) :=
  match cs with
  | '[' :: ':' :: rest =>
    let (negated, rest) := match rest with
      | '^' :: rest => (true, rest)
      | _ => (false, rest)
    match rest.dropWhile (· != ':') with
    | ':' :: ']' :: after =>
      (CharSet.asciiClass? (String.ofList (rest.takeWhile (· != ':')))).map fun s =>
        ((negated, s), after)
    | _ => none
  | _ => none

/-- The atom of a class: an escape or any character. -/
def classAtom (flags : Flags) (cs : List Char) : Reading Atom :=
  match cs with
  | [] => none
  | '\\' :: rest => escape flags rest
  | c :: rest => some (.char c, rest)

/-- A character inside a class; without the flag `unicode` it has to be ASCII. -/
def classChar (flags : Flags) (c : Char) : Option Char :=
  if !flags.unicode && 127 < c.toNat then none else some c

/-- A member of a class: an atom, or a range between two characters. A hyphen
before the closing bracket or another hyphen makes no range. -/
def classMember (flags : Flags) (cs : List Char) : Reading CharSet :=
  match classAtom flags cs with
  | none => none
  | some (atom, rest) =>
    let single (rest : List Char) : Reading CharSet :=
      match atom with
      | .char c => (classChar flags c).map (CharSet.single ·, rest)
      | .set s => some (s, rest)
      | .look _ => none
    match skip flags rest with
    | [] => none
    | '-' :: after =>
      if peek flags after == some ']' || peek flags after == some '-' then single ('-' :: after)
      else
        match skip flags after with
        | [] => none
        | second =>
          match atom, classAtom flags second with
          | .char first, some (.char last, rest) =>
            match classChar flags first, classChar flags last with
            | some first, some last =>
              if first ≤ last then some (CharSet.range first last, rest) else none
            | _, _ => none
          | _, _ => none
    | rest => single rest

/-- The hyphens at the front of a class, which are plain members. -/
def leadingHyphens (flags : Flags) : Nat → List Char → List CharSet × List Char
  | 0, cs => ([], cs)
  | fuel + 1, cs =>
    match cs with
    | '-' :: rest =>
      let (sets, after) := leadingHyphens flags fuel (skip flags rest)
      (CharSet.single '-' :: sets, after)
    | cs => ([], cs)

/-- The operators between the parts of a class. -/
inductive SetOperator where
  | inter | diff | symmDiff

/-- Applies a waiting operator to its two operands. -/
def applyOperator (flags : Flags) (waiting : Option (SetOperator × Bracketed))
    (right : Bracketed) : Bracketed :=
  match waiting with
  | none => right
  | some (op, left) =>
    let fold (s : CharSet) :=
      if flags.ignoreCase then (if flags.unicode then s.folded else s.asciiFolded) else s
    let l := fold left.set
    let r := fold right.set
    ⟨match op with
      | .inter => l.inter r
      | .diff => l.diff r
      | .symmDiff => l.symmDiff r,
     max left.depth right.depth + 1⟩

/-- The union of the members read so far. -/
def unionOf (members : List Bracketed) : Bracketed :=
  let depth := members.foldr (fun b d => max b.depth d) 0
  ⟨members.foldr (fun b s => b.set.union s) .empty,
   if members.length ≤ 1 then depth else depth + 1⟩

/-- The front of a class after its opening bracket: whether it is negated, and
the hyphens or the closing bracket that stand for themselves there. -/
def classFront (flags : Flags) (cs : List Char) : Reading (Bool × List Bracketed) :=
  let cs := skip flags cs
  let (negated, cs) := match cs with
    | '^' :: rest => (true, skip flags rest)
    | cs => (false, cs)
  let (hyphens, cs) := leadingHyphens flags cs.length cs
  match hyphens, cs with
  | [], ']' :: rest =>
    match skip flags rest with
    | [] => none
    | rest => some ((negated, [⟨.single ']', 0⟩]), rest)
  | _, [] => none
  | hyphens, cs => some ((negated, hyphens.map (⟨·, 0⟩)), cs)

/-- The body of a class up to its closing bracket. -/
def classBody (flags : Flags) :
    Nat → Option (SetOperator × Bracketed) → List Bracketed → List Char → Reading Bracketed
  | 0, _, _, _ => none
  | fuel + 1, waiting, members, cs =>
    let operator (op : SetOperator) (rest : List Char) :=
      classBody flags fuel (some (op, applyOperator flags waiting (unionOf members))) [] rest
    match skip flags cs with
    | [] => none
    | '[' :: rest =>
      match colonClass? ('[' :: rest) with
      | some ((negated, s), after) =>
        match finishSet flags negated s with
        | some s => classBody flags fuel waiting (⟨s, 0⟩ :: members) after
        | none => none
      | none =>
        match classFront flags rest with
        | none => none
        | some ((negated, front), inside) =>
          match classBody flags fuel none front inside with
          | none => none
          | some (inner, after) =>
            match finishSet flags negated inner.set with
            | some s => classBody flags fuel waiting (⟨s, inner.depth + 1⟩ :: members) after
            | none => none
    | ']' :: rest => some (applyOperator flags waiting (unionOf members), rest)
    | '&' :: '&' :: rest => operator .inter rest
    | '-' :: '-' :: rest => operator .diff rest
    | '~' :: '~' :: rest => operator .symmDiff rest
    | cs =>
      match classMember flags cs with
      | some (s, after) => classBody flags fuel waiting (⟨s, 0⟩ :: members) after
      | none => none

/-- A class in brackets, after the opening bracket. -/
def bracketClass (flags : Flags) (cs : List Char) : Reading Bracketed :=
  match classFront flags cs with
  | none => none
  | some ((negated, front), inside) =>
    match classBody flags (inside.length + 1) none front inside with
    | none => none
    | some (inner, after) =>
      (finishSet flags negated inner.set).map (⟨·, inner.depth + 1⟩, after)

end Expectation.Regex
