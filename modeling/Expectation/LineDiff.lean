/-!
# The shortest edit of a list of lines

Two lists of lines are compared by a longest common subsequence: lines of both
are kept, the other lines of the first list are deleted and those of the second
inserted. The lengths of the common subsequences of all pairs of front parts
are put in a table, and the edit is read off the table from the end, preferring
an insertion when both steps are as good; read forwards, the deletions of a
changed block come before its insertions.

Everything works on the reversed lists, so that "all but the last line" is the
tail of a list.
-/

namespace Expectation

/-- What happens to a line. -/
inductive LineEdit where
  | keep
  | delete
  | insert
  deriving DecidableEq, Repr

namespace LineDiff

/-- The row of the table for `x :: xs`, given the row for `xs`: the length of a
longest common subsequence with every suffix of the second list. -/
def row {α : Type} [DecidableEq α] (x : α) : List α → List Nat → List Nat
  | [], _ => [0]
  | y :: ys, below =>
    let rest := row x ys below.tail
    (if x = y then below.tail.headD 0 + 1 else max (below.headD 0) (rest.headD 0)) :: rest

/-- The rows for all suffixes of the first list. -/
def table {α : Type} [DecidableEq α] : List α → List α → List (List Nat)
  | [], ys => [List.replicate (ys.length + 1) 0]
  | x :: xs, ys =>
    let below := table xs ys
    row x ys (below.headD []) :: below

/-- The length in a row for the suffix that begins at an index. -/
def entry (rows : List (Array Nat)) (index : Nat) : Nat :=
  ((rows.head?.getD #[])[index]?).getD 0

/-- The edit of two reversed lists, last line first. `j` lines of the second
list have been passed; `fuel` is the number of lines in both. -/
def walk {α : Type} [DecidableEq α] :
    Nat → List α → List α → Nat → List (Array Nat) → List (LineEdit × α)
  | 0, _, _, _, _ => []
  | _, [], [], _, _ => []
  | fuel + 1, [], y :: ys, j, rows => (.insert, y) :: walk fuel [] ys (j + 1) rows
  | fuel + 1, x :: xs, [], j, rows => (.delete, x) :: walk fuel xs [] j rows.tail
  | fuel + 1, x :: xs, y :: ys, j, rows =>
    if x = y then (.keep, x) :: walk fuel xs ys (j + 1) rows.tail
    else if entry rows.tail j ≤ entry rows (j + 1) then
      (.insert, y) :: walk fuel (x :: xs) ys (j + 1) rows
    else (.delete, x) :: walk fuel xs (y :: ys) j rows.tail

/-- The edit that turns the expected lines into the actual ones. -/
def edit {α : Type} [DecidableEq α] (expected actual : List α) : List (LineEdit × α) :=
  let xs := expected.reverse
  let ys := actual.reverse
  let rows := (table xs ys).map List.toArray
  (walk (xs.length + ys.length) xs ys 0 rows).reverse

/-- The lines of a text. A line ends with a newline, before which a carriage
return is dropped; nothing follows the last newline. -/
def lines (text : String) : List String :=
  (go text.toList).map String.ofList
where
  /-- The lines as lists of characters. -/
  go : List Char → List (List Char)
    | [] => []
    | '\r' :: '\n' :: cs => [] :: go cs
    | '\n' :: cs => [] :: go cs
    | c :: cs =>
      match cs with
      | [] => [[c]]
      | _ :: _ =>
        match go cs with
        | [] => [[c]]
        | l :: ls => (c :: l) :: ls

end LineDiff

end Expectation
