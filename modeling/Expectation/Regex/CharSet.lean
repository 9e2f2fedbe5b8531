import Expectation.Regex
import Expectation.Unicode.Age
import Expectation.Unicode.Break
import Expectation.Unicode.Folding
import Expectation.Unicode.RangeAlgebra
import Expectation.Unicode.Script
import Expectation.Unicode.ScriptExtension
import Expectation.Unicode.Word

/-!
# Sets of characters in patterns

A bracketed class, an escape such as `\d` and a property such as `\p{Greek}`
all denote sets of characters. A set is its membership test together with the
ranges of its members. The test is what matching uses; the ranges are what a
compiled pattern is made of, and they decide how large it is.

Properties are found by loose names: case, blanks, hyphens, underscores and a
leading `is` do not count.
-/

namespace Expectation

/-- A set of characters: the test for its members, and the ranges of their code
points in any order. -/
structure CharSet where
  accepts : Char → Bool
  spans : List (Nat × Nat)

namespace CharSet

/-- The ranges of the members in normal form. -/
def ranges (s : CharSet) : List (Nat × Nat) :=
  Unicode.normalRanges (s.spans.flatMap Unicode.scalarPart)

def empty : CharSet := ⟨fun _ => false, []⟩

def full : CharSet := ⟨fun _ => true, [(0, Unicode.lastCodePoint)]⟩

def single (c : Char) : CharSet := ⟨(· == c), [(c.toNat, c.toNat)]⟩

def range (first last : Char) : CharSet :=
  ⟨fun c => first ≤ c && c ≤ last, [(first.toNat, last.toNat)]⟩

/-- The set with the given characters. -/
def ofList (cs : List Char) : CharSet := ⟨cs.contains, cs.map fun c => (c.toNat, c.toNat)⟩

/-- The set with the given ranges, which ascend. -/
def ofRanges (ranges : Array (Nat × Nat)) : CharSet :=
  ⟨Unicode.inRanges ranges, ranges.toList⟩

def union (s t : CharSet) : CharSet := ⟨fun c => s.accepts c || t.accepts c, s.spans ++ t.spans⟩

def unions (sets : List CharSet) : CharSet := sets.foldr union empty

def inter (s t : CharSet) : CharSet :=
  ⟨fun c => s.accepts c && t.accepts c, Unicode.commonRanges s.ranges t.ranges⟩

def compl (s : CharSet) : CharSet := ⟨fun c => !s.accepts c, Unicode.gapsFrom 0 s.ranges⟩

def diff (s t : CharSet) : CharSet :=
  ⟨fun c => s.accepts c && !t.accepts c, (s.inter t.compl).spans⟩

def symmDiff (s t : CharSet) : CharSet :=
  ⟨fun c => s.accepts c != t.accepts c, (s.diff t).spans ++ (t.diff s).spans⟩

/-- The set with all case variants of its members. -/
def folded (s : CharSet) : CharSet :=
  let ranges := s.ranges.toArray
  ⟨fun c => (Unicode.caseVariants c).any s.accepts,
   s.spans ++ (ofList (Unicode.variantsWithin (Unicode.inRanges ranges))).spans⟩

/-- The letters `A` to `Z` in both cases. -/
def asciiLetters : List Char :=
  "ABCDEFGHIJKLMNOPQRSTUVWXYZabcdefghijklmnopqrstuvwxyz".toList

/-- The set with the case variants of its members among the letters `A` to `Z`. -/
def asciiFolded (s : CharSet) : CharSet :=
  let accepts (c : Char) := s.accepts c || s.accepts c.toLower || s.accepts c.toUpper
  ⟨accepts, s.spans ++ (ofList (asciiLetters.filter accepts)).spans⟩

/-! ## Classes named by a letter or a word -/

def decimalDigit : CharSet := ⟨Unicode.isDecimalDigit, Unicode.decimalDigitRanges⟩

def blank : CharSet := ⟨Text.isBlank, Text.blankRanges⟩

def word : CharSet := ⟨Unicode.isWordChar, Unicode.wordRanges⟩

def asciiDigit : CharSet := range '0' '9'

def asciiBlank : CharSet := unions [range '\t' '\r', single ' ']

def asciiAlpha : CharSet := ⟨Char.isAlpha, [(0x41, 0x5A), (0x61, 0x7A)]⟩

def asciiAlnum : CharSet := ⟨Char.isAlphanum, (0x30, 0x39) :: asciiAlpha.spans⟩

def asciiWord : CharSet := ⟨Unicode.isAsciiWordChar, (0x5F, 0x5F) :: asciiAlnum.spans⟩

/-- The classes written between colons inside brackets. -/
def asciiClass? (name : String) : Option CharSet :=
  match name with
  | "alnum" => some asciiAlnum
  | "alpha" => some asciiAlpha
  | "ascii" => some (range '\x00' '\x7F')
  | "blank" => some (ofList ['\t', ' '])
  | "cntrl" => some (unions [range '\x00' '\x1F', single '\x7F'])
  | "digit" => some asciiDigit
  | "graph" => some (range '!' '~')
  | "lower" => some (range 'a' 'z')
  | "print" => some (range ' ' '~')
  | "punct" => some (unions [range '!' '/', range ':' '@', range '[' '\x60', range '\x7B' '~'])
  | "space" => some asciiBlank
  | "upper" => some (range 'A' 'Z')
  | "word" => some asciiWord
  | "xdigit" => some (unions [range '0' '9', range 'A' 'F', range 'a' 'f'])
  | _ => none

/-! ## Properties by name -/

/-- A name reduced to what counts: lower case, ASCII only, without blanks,
hyphens, underscores and a leading `is`. The abbreviation `isc` keeps its
beginning, because `c` alone is another name. -/
def looseName (name : List Char) : String :=
  let isIs : Bool := match name with
    | i :: s :: _ => i.toLower == 'i' && s.toLower == 's'
    | _ => false
  let kept := (if isIs then name.drop 2 else name).filter fun c =>
    c.toNat < 128 && c != ' ' && c != '_' && c != '-'
  let lower := String.ofList (kept.map Char.toLower)
  if isIs && lower == "c" then "isc" else lower

/-- The set of a general category or of a union of categories. -/
def category? (name : String) : Option CharSet :=
  match name with
  | "any" => some full
  | "ascii" => some (range '\x00' '\x7F')
  | "assigned" => some (compl (ofRanges (Unicode.rangesNamed Unicode.categories "cn")))
  | _ =>
    match Unicode.groups.find? (·.1.contains name) with
    | some (_, parts) =>
      some (unions (parts.map fun part => ofRanges (Unicode.rangesNamed Unicode.categories part)))
    | none => (Unicode.findProperty Unicode.categories name).map fun p => ofRanges p.ranges

def listed? (table : List Unicode.Property) (name : String) : Option CharSet :=
  (Unicode.findProperty table name).map fun p => ofRanges p.ranges

/-- The set of a property given by its name alone: a yes-or-no property, else a
category, else a script. Three short names that also abbreviate other
properties are always categories. -/
def property? (name : List Char) : Option CharSet :=
  let name := looseName name
  (if ["cf", "sc", "lc"].contains name then none else listed? Unicode.properties name)
    <|> category? name <|> listed? Unicode.scripts name

/-- The characters that had a meaning in the edition with a name: those that came
with it or with one before. -/
def age? (editions : List Unicode.Property) (name : String) : Option CharSet :=
  match editions with
  | [] => none
  | p :: later =>
    if p.names.contains name then some (ofRanges p.ranges)
    else (age? later name).map (ofRanges p.ranges).union

/-- The set of a property given by its name and a value. -/
def propertyValue? (name value : List Char) : Option CharSet :=
  let value := looseName value
  match looseName name with
  | "gc" | "generalcategory" => category? value
  | "sc" | "script" => listed? Unicode.scripts value
  | "scx" | "scriptextensions" => listed? Unicode.scriptExtensions value
  | "age" => age? Unicode.editions value
  | "gcb" | "graphemeclusterbreak" => listed? Unicode.graphemeBreaks value
  | "wb" | "wordbreak" => listed? Unicode.wordBreaks value
  | "sb" | "sentencebreak" => listed? Unicode.sentenceBreaks value
  | _ => none

end CharSet

end Expectation
