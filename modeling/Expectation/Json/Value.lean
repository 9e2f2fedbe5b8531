import Expectation.Matcher

/-!
# JSON trees

A JSON document is a tree, and an expected document is a tree that may hold
matchers in place of values; both are a `Value`. Numbers keep how they were
written: an integer that fits sixty-four bits with a sign, one that fits only
without, and everything else as a binary64 number.

The members of an object are kept by ascending key, each key once. `insert`
builds such lists and `Value.Canonical` says that a tree has them throughout,
so that a tree is determined by what it holds.

Two notions of sameness meet here. `Value.same` tells trees apart exactly: an
integer is the same number in either integer form, a floating-point number
only equals one with the same word. Comparing documents uses the numeric value
instead (`Value.number?`).

## Main results

* `lookup_insert`: what a list of members holds after an insertion.
-/

namespace Expectation.Json

/-- A JSON tree, which may hold matchers. -/
inductive Value where
  | null
  | bool (b : Bool)
  /-- An integer that fits sixty-four bits with a sign. -/
  | int (i : Int64)
  /-- An integer that fits sixty-four bits only without a sign. -/
  | nat (n : UInt64)
  | float (x : Binary64)
  | string (s : String)
  | array (items : List Value)
  /-- The members by ascending key. -/
  | object (members : List (String × Value))
  /-- A rule for the values accepted here. -/
  | matcher (m : Matcher)

instance : Inhabited Value := ⟨.null⟩

/-! ## Members -/

/-- The value at a key. -/
def lookup (key : String) : List (String × α) → Option α
  | [] => none
  | (k, v) :: rest => if k = key then some v else lookup key rest

/-- The members with a value put at a key, in place of the one that was there. -/
def insert (key : String) (value : α) : List (String × α) → List (String × α)
  | [] => [(key, value)]
  | (k, v) :: rest =>
    if key < k then (key, value) :: (k, v) :: rest
    else if k = key then (key, value) :: rest
    else (k, v) :: insert key value rest

/-- The members that hold the given pairs; of several values at one key the
last one counts. -/
def ofPairs (pairs : List (String × α)) : List (String × α) :=
  pairs.foldl (fun ms p => insert p.1 p.2 ms) []

/-- An insertion changes what is held at its own key and nowhere else. -/
theorem lookup_insert (key other : String) (value : α) (ms : List (String × α)) :
    lookup other (insert key value ms) =
      if other = key then some value else lookup other ms := by
  induction ms with
  | nil => by_cases h : key = other <;> simp [insert, lookup, h, eq_comm]
  | cons p rest ih =>
    obtain ⟨k, v⟩ := p
    unfold insert
    split
    · by_cases h : key = other <;> simp [lookup, h, @eq_comm _ other key]
    · split
      · next hk =>
        subst hk
        by_cases h : k = other <;> simp [lookup, h, @eq_comm _ other k]
      · next hk =>
        by_cases h : k = other
        · subst h
          simp [lookup, hk]
        · simp [lookup, h, ih]

/-! ## Trees in canonical form -/

mutual

/-- The keys of every object in the tree ascend. -/
def Value.Canonical : Value → Prop
  | .array items => CanonicalItems items
  | .object members =>
    (members.Pairwise fun a b => a.1 < b.1) ∧ CanonicalMembers members
  | _ => True

/-- Every item is in canonical form. -/
def CanonicalItems : List Value → Prop
  | [] => True
  | v :: rest => v.Canonical ∧ CanonicalItems rest

/-- The value of every member is in canonical form. -/
def CanonicalMembers : List (String × Value) → Prop
  | [] => True
  | (_, v) :: rest => v.Canonical ∧ CanonicalMembers rest

end

/-! ## Parts of a value -/

namespace Value

/-- The word for the kind of value. -/
def typeName : Value → String
  | .null => "null"
  | .bool _ => "boolean"
  | .int _ | .nat _ | .float _ => "number"
  | .string _ => "string"
  | .array _ => "array"
  | .object _ => "object"
  | .matcher _ => "matcher"

/-- The numeric value, of a number. -/
def number? : Value → Option Binary64
  | .float x => some x
  | .int i => some (Binary64.ofInt i.toInt)
  | .nat n => some (Binary64.ofNat n.toNat)
  | _ => none

def isNumber (v : Value) : Bool := v.number?.isSome

def isNull : Value → Bool
  | .null => true
  | _ => false

def string? : Value → Option String
  | .string s => some s
  | _ => none

def matcher? : Value → Option Matcher
  | .matcher m => some m
  | _ => none

/-- The value at a key, of an object that has it. -/
def get? (key : String) : Value → Option Value
  | .object members => lookup key members
  | _ => none

/-! ## Sameness -/

mutual

/-- Whether two trees are the same. Integers are compared as integers, floating
point numbers by their words, matchers by what they say. -/
def same : Value → Value → Bool
  | .null, .null => true
  | .bool a, .bool b => a == b
  | .int a, .int b => a == b
  | .nat a, .nat b => a == b
  | .int a, .nat b => a.toInt == b.toNat
  | .nat a, .int b => b.toInt == a.toNat
  | .float a, .float b => a == b
  | .string a, .string b => a == b
  | .array a, .array b => sameItems a b
  | .object a, .object b => sameMembers a b
  | .matcher a, .matcher b => a == b
  | _, _ => false

/-- Whether two lists hold the same trees. -/
def sameItems : List Value → List Value → Bool
  | [], [] => true
  | v :: vs, w :: ws => same v w && sameItems vs ws
  | _, _ => false

/-- Whether two lists of members hold the same keys and trees. -/
def sameMembers : List (String × Value) → List (String × Value) → Bool
  | [], [] => true
  | (k, v) :: vs, (l, w) :: ws => k == l && same v w && sameMembers vs ws
  | _, _ => false

end

end Value

end Expectation.Json

namespace Expectation.Matcher

open Json (Value)

/-- Whether a number, if it is one, has no fractional part. -/
def isIntegral : Value → Bool
  | .int _ | .nat _ => true
  | .float x => x.isIntegral
  | _ => false

/-- Whether the matcher accepts a value, or the lack of one. -/
def accepts : Matcher → Option Value → Bool
  | .anyValue, _ => true
  | .ignore, _ => true
  | .anyString, v => (v.bind Value.string?).isSome
  | .anyInt, v => v.any isIntegral
  | .anyFloat, v => v.any Value.isNumber
  | .anyBool, some (.bool _) => true
  | .anyBool, _ => false
  | .regex p, v => (v.bind Value.string?).any p.isMatch
  | .oneOf values, v => (v.bind Value.string?).any values.contains

end Expectation.Matcher

