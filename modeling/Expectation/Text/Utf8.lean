/-!
# Text from bytes

Bytes are read as UTF-8. The reader takes the characters from the front one by
one and says of a place without a character why there is none: the bytes there
can begin no character, in which case it also says how many of them belong
together, or the input ends inside a character.

A `Symbol` is a character or a byte that belongs to none. Cutting bytes into
symbols loses nothing, so a reader of symbols can point to the first byte that
is wrong.
-/

namespace Expectation.Text

/-- Why no character begins at the front of some bytes. -/
inductive Utf8Fault where
  /-- The bytes begin no character; `length` of them belong together. -/
  | invalid (length : Nat)
  /-- The input ends inside a character. -/
  | incomplete
  deriving DecidableEq, Repr

/-- A byte that continues a character. -/
def isContinuation (b : UInt8) : Bool := 0x80 ≤ b && b ≤ 0xBF

/-- The second bytes that may follow a first byte: overlong forms, surrogates
and numbers beyond the last code point are shut out here. -/
def secondByteRange (first : UInt8) : UInt8 × UInt8 :=
  if first = 0xE0 then (0xA0, 0xBF)
  else if first = 0xED then (0x80, 0x9F)
  else if first = 0xF0 then (0x90, 0xBF)
  else if first = 0xF4 then (0x80, 0x8F)
  else (0x80, 0xBF)

/-- The number of bytes of the character that a first byte begins, or zero if
it begins none. -/
def sequenceLength (first : UInt8) : Nat :=
  if first < 0x80 then 1
  else if 0xC2 ≤ first && first ≤ 0xDF then 2
  else if 0xE0 ≤ first && first ≤ 0xEF then 3
  else if 0xF0 ≤ first && first ≤ 0xF4 then 4
  else 0

/-- The six low bits that a continuing byte adds to a code point. -/
def addBits (n : Nat) (b : UInt8) : Nat := n * 64 + (b.toNat - 0x80)

/-- The character at the front of bytes that are not empty, with the bytes
after it. -/
def decodeFirst (first : UInt8) (rest : List UInt8) : Except Utf8Fault (Char × List UInt8) :=
  let (low, high) := secondByteRange first
  let second (b : UInt8) : Bool := low ≤ b && b ≤ high
  match sequenceLength first, rest with
  | 1, rest => .ok (Char.ofNat first.toNat, rest)
  | 2, [] => .error .incomplete
  | 2, b :: rest =>
    if isContinuation b then .ok (Char.ofNat (addBits (first.toNat - 0xC0) b), rest)
    else .error (.invalid 1)
  | 3, [] => .error .incomplete
  | 3, b :: rest =>
    if !second b then .error (.invalid 1)
    else match rest with
      | [] => .error .incomplete
      | c :: rest =>
        if isContinuation c then
          .ok (Char.ofNat (addBits (addBits (first.toNat - 0xE0) b) c), rest)
        else .error (.invalid 2)
  | 4, [] => .error .incomplete
  | 4, b :: rest =>
    if !second b then .error (.invalid 1)
    else match rest with
      | [] => .error .incomplete
      | c :: rest =>
        if !isContinuation c then .error (.invalid 2)
        else match rest with
          | [] => .error .incomplete
          | d :: rest =>
            if isContinuation d then
              .ok (Char.ofNat (addBits (addBits (addBits (first.toNat - 0xF0) b) c) d), rest)
            else .error (.invalid 3)
  | _, _ => .error (.invalid 1)

/-- A character, or a byte that belongs to no character. -/
inductive Symbol where
  | char (c : Char)
  | stray (b : UInt8)
  deriving DecidableEq, Repr

/-- The number of bytes of a symbol. -/
def Symbol.width : Symbol → Nat
  | .char c => c.utf8Size
  | .stray _ => 1

/-- The symbols of some bytes; `fuel` bounds their number. -/
def symbolsWithin : Nat → List UInt8 → List Symbol
  | 0, _ => []
  | _, [] => []
  | fuel + 1, b :: rest =>
    match decodeFirst b rest with
    | .ok (c, after) => .char c :: symbolsWithin fuel after
    | .error _ => .stray b :: symbolsWithin fuel rest

/-- The symbols of some bytes. -/
def symbols (bytes : List UInt8) : List Symbol :=
  symbolsWithin bytes.length bytes

/-- The first fault of some bytes and the number of bytes before it. -/
def faultWithin : Nat → Nat → List UInt8 → Option (Nat × Utf8Fault)
  | 0, _, _ => none
  | _, _, [] => none
  | fuel + 1, before, b :: rest =>
    match decodeFirst b rest with
    | .ok (c, after) => faultWithin fuel (before + c.utf8Size) after
    | .error fault => some (before, fault)

/-- The first fault of some bytes and the number of bytes before it. -/
def firstFault? (bytes : List UInt8) : Option (Nat × Utf8Fault) :=
  faultWithin bytes.length 0 bytes

/-- The characters among symbols, up to the first byte that belongs to none. -/
def charsOf : List Symbol → List Char
  | .char c :: rest => c :: charsOf rest
  | _ => []

/-- The text of some bytes, or the first fault and the number of bytes before it. -/
def decode (bytes : List UInt8) : Except (Nat × Utf8Fault) String :=
  match firstFault? bytes with
  | some fault => .error fault
  | none => .ok (String.ofList (charsOf (symbols bytes)))

example : symbols [0x22, 0xC3, 0x28, 0xE2, 0x98, 0x83] =
    [.char '"', .stray 0xC3, .char '(', .char '☃'] := by decide
example : firstFault? [0x61, 0xC3] = some (1, .incomplete) := by decide
example : firstFault? [0xE2, 0x98, 0x28] = some (0, .invalid 2) := by decide

end Expectation.Text
