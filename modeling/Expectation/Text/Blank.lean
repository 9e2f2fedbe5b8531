/-!
# Blank characters, trimming and words

A document may be laid out differently from the text it is compared with, so
the comparison needs one notion of *blank* character and three things built
on it: trimming the ends of a text, cutting it into words, and collapsing it
to its words with one space between them. The blank characters are those of
the Unicode property `White_Space`, which is why the core class
`Char.isWhitespace` (ASCII only) is not used.

Everything is a recursion over `List Char`; a `String` is read through
`toList` and written through `String.ofList`.

## Main results

* `words_ne_nil`, `not_isBlank_of_mem_words`: a word is not empty and holds no
  blank character.
-/

namespace Expectation.Text

/-- A blank character: one with the Unicode property `White_Space`. -/
def isBlank (c : Char) : Bool :=
  let n := c.toNat
  (0x09 ≤ n && n ≤ 0x0D) || n == 0x20 || n == 0x85 || n == 0xA0 || n == 0x1680 ||
    (0x2000 ≤ n && n ≤ 0x200A) || n == 0x2028 || n == 0x2029 || n == 0x202F ||
    n == 0x205F || n == 0x3000

/-- The ranges of the blank characters. -/
def blankRanges : List (Nat × Nat) :=
  [(0x09, 0x0D), (0x20, 0x20), (0x85, 0x85), (0xA0, 0xA0), (0x1680, 0x1680), (0x2000, 0x200A),
    (0x2028, 0x2029), (0x202F, 0x202F), (0x205F, 0x205F), (0x3000, 0x3000)]

/-! ## Trimming -/

/-- The text without the blank characters in front. -/
def trimStart (cs : List Char) : List Char :=
  cs.dropWhile isBlank

/-- The text without the blank characters at the end. -/
def trimEnd (cs : List Char) : List Char :=
  (cs.reverse.dropWhile isBlank).reverse

/-- The text without the blank characters at both ends. -/
def trim (cs : List Char) : List Char :=
  trimEnd (trimStart cs)

/-- The string without the blank characters at both ends. -/
def trimmed (s : String) : String :=
  String.ofList (trim s.toList)

/-- A text is blank when each of its characters is. -/
def allBlank (s : String) : Bool :=
  s.toList.all isBlank

/-! ## Words -/

/-- The maximal runs of characters that are not blank, in order. -/
def words : List Char → List (List Char)
  | [] => []
  | c :: cs =>
    if isBlank c then words cs
    else match cs with
      | [] => [[c]]
      | d :: _ =>
        if isBlank d then [c] :: words cs
        else match words cs with
          | [] => [[c]]
          | w :: ws => (c :: w) :: ws

/-- The words of a text with one space between neighbours. -/
def collapse (s : String) : String :=
  String.ofList (List.intercalate [' '] (words s.toList))

/-- No word is empty. -/
theorem words_ne_nil {cs w : List Char} (h : w ∈ words cs) : w ≠ [] := by
  fun_induction words cs <;> grind

/-- No word holds a blank character. -/
theorem not_isBlank_of_mem_words {cs w : List Char} {c : Char} (h : w ∈ words cs)
    (hc : c ∈ w) : isBlank c = false := by
  fun_induction words cs generalizing w <;> grind

end Expectation.Text
