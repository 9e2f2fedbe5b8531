import Expectation.Html.Construction.Builder

/-!
# Formatting elements

Formatting may overlap with the elements around it: in `<b><p></b>` the bold
text ends inside the paragraph. The tree has no overlaps, so the formatting
elements are remembered, cut at the end of the element around them, and opened
again behind it; and when the end of one comes inside another element, the
elements in between are split, element by element, in `adopt`.
-/

namespace Expectation.Html.Builder

/-! ## Opening again -/

/-- Whether an entry is a formatting element that is not open. -/
def isCut (b : Builder) : Formatting → Bool
  | .marker => false
  | .element i _ => !b.opened.contains i

/-- Opens the elements of some entries, earliest first. -/
def reopen (b : Builder) : List Formatting → Builder
  | [] => b
  | .marker :: rest => reopen { b with formatting := .marker :: b.formatting } rest
  | .element _ tag :: rest =>
    let (i, b) := b.insertAndOpen .html tag.name (plainAttributes tag)
    reopen { b with formatting := .element i tag :: b.formatting } rest

/-- Opens the formatting elements again that have been cut. -/
def reopenFormatting (b : Builder) : Builder :=
  let cut := b.formatting.takeWhile b.isCut
  reopen { b with formatting := b.formatting.drop cut.length } cut.reverse

/-! ## Remembering -/

/-- Whether a formatting element was opened by the same tag, whatever the order
of its attributes. -/
def openedBy (tag : Tag) : Formatting → Bool
  | .marker => false
  | .element _ other =>
    tag.name == other.name && tag.attributes.length == other.attributes.length &&
      tag.attributes.all other.attributes.contains

/-- The list without the first entry that passes a test. -/
def eraseFirst {α : Type} (test : α → Bool) : List α → List α
  | [] => []
  | a :: as => if test a then as else a :: eraseFirst test as

/-- The entries, latest first, without the earliest of those since the marker
that a tag opened, if there are three of them. -/
def limitEntries (tag : Tag) (entries : List Formatting) : List Formatting :=
  let recent := entries.takeWhile (· != .marker)
  if 3 ≤ (recent.filter (openedBy tag)).length then
    (eraseFirst (openedBy tag) recent.reverse).reverse ++ entries.drop recent.length
  else entries

/-- Inserts and remembers a formatting element. -/
def insertFormatting (b : Builder) (tag : Tag) : Builder :=
  let entries := limitEntries tag b.formatting
  let (i, b) := b.insertAndOpen .html tag.name (plainAttributes tag)
  { b with formatting := .element i tag :: entries }

/-- Whether an entry is an element. -/
def isEntryOf (i : Nat) : Formatting → Bool
  | .marker => false
  | .element j _ => i == j

/-- Forgets a formatting element. -/
def forget (b : Builder) (i : Nat) : Builder :=
  { b with formatting := eraseFirst (isEntryOf i) b.formatting }

/-- The tag of a formatting element. -/
def formattingTag? (b : Builder) (i : Nat) : Option Tag :=
  b.formatting.findSome? fun
    | .marker => none
    | .element j tag => if i = j then some tag else none

/-- The latest formatting element of a tag since the marker. -/
def latest? (tag : String) : List Formatting → Option (Nat × Tag)
  | .element i t :: rest => if t.name = tag then some (i, t) else latest? tag rest
  | _ => none

/-! ## Closing -/

/-- Closes the innermost element of a tag unless it lies beyond a special one. -/
def closeAny (b : Builder) (tag : String) : Builder :=
  let found := inScopeOf (b.isAny specialTags) (b.isAny [tag]) b.opened
  if !found then b
  else
    let below := afterFirst (b.isAny [tag]) b.opened
    { b with opened := below }

/-- Entries with one of them replaced. -/
def replaceEntry (i : Nat) (new : Formatting) : List Formatting → List Formatting
  | [] => []
  | e :: es => if isEntryOf i e then new :: es else e :: replaceEntry i new es

/-- Entries, latest first, with one put just after another in time. -/
def putAfter (i : Nat) (new : Formatting) : List Formatting → List Formatting
  | [] => []
  | e :: es => if isEntryOf i e then new :: e :: es else e :: putAfter i new es

/-- The state while the elements between a block and a formatting element are
split. -/
structure Splitting where
  builder : Builder
  /-- The topmost element split off so far. -/
  last : Nat
  /-- The elements that stay open between the two, outermost first. -/
  kept : List Nat
  /-- The formatting element behind which the new one is remembered. -/
  bookmark : Option Nat

/-- Splits one element: a formatting element that is remembered gets a copy
around what has been split off; any other, and all beyond the third, are closed. -/
def Splitting.step (counter : Nat) (s : Splitting) (i : Nat) : Splitting :=
  if 3 < counter then { s with builder := s.builder.forget i }
  else
    match s.builder.formattingTag? i with
    | none => s
    | some tag =>
      let (copy, b) := s.builder.createElement .html tag.name (plainAttributes tag)
      let b := { b with
        formatting := replaceEntry i (.element copy tag) b.formatting
        store := b.store.append copy s.last }
      { builder := b, last := copy, kept := copy :: s.kept,
        bookmark := s.bookmark <|> some copy }

/-- Splits elements, innermost first; `counter` counts them from one. -/
def Splitting.run (counter : Nat) (s : Splitting) : List Nat → Splitting
  | [] => s
  | i :: rest => Splitting.run (counter + 1) (s.step counter i) rest

/-- Ends a formatting element whose innermost block is open: `above` holds the
elements inside the block, `between` those from the block out to the formatting
element, both innermost first, and `below` those around it. -/
def split (b : Builder) (element : Nat) (tag : Tag) (above : List Nat) (block : Nat)
    (between below : List Nat) : Builder :=
  let s := Splitting.run 1 ⟨b, block, [], none⟩ between
  let b := s.builder
  let b := { b with store := b.store.detach s.last }
  let b := b.put (b.placeIn (below.head?.getD Store.page)) s.last
  let (new, b) := b.createElement .html tag.name (plainAttributes tag)
  let store := (b.store.moveChildren block new).append block new
  let entry := Formatting.element new tag
  let formatting := match s.bookmark with
    | none => replaceEntry element entry b.formatting
    | some i => eraseFirst (isEntryOf element) (putAfter i entry b.formatting)
  { b with store, formatting, opened := above ++ new :: block :: (s.kept.reverse ++ below) }

/-- The parts of a list before and after the last entry that passes a test, with
that entry. -/
def splitAtLast? (test : Nat → Bool) : List Nat → Option (List Nat × Nat × List Nat)
  | [] => none
  | i :: rest =>
    match splitAtLast? test rest with
    | some (before, j, after) => some (i :: before, j, after)
    | none => if test i then some ([], i, rest) else none

/-- Ends the formatting element of a tag, in as many rounds as there are blocks
open in it, up to a limit. -/
def adopt : Nat → String → Builder → Builder
  | 0, _, b => b
  | rounds + 1, tag, b =>
    match latest? tag b.formatting with
    | none => b.closeAny tag
    | some (element, given) =>
      if !b.opened.contains element then b.forget element
      else if !inScopeOf (b.endsScope []) (· == element) b.opened then b
      else
        let inner := b.opened.takeWhile (· != element)
        let below := b.opened.drop (inner.length + 1)
        match splitAtLast? (b.isAny specialTags) inner with
        | none => { b with opened := below }.forget element
        | some (above, block, between) =>
          adopt rounds tag (b.split element given above block between below)

/-- Ends the formatting element of a tag. -/
def closeFormatting (b : Builder) (tag : String) : Builder :=
  match b.opened with
  | i :: rest =>
    if b.isAny [tag] i && (b.formattingTag? i).isNone then { b with opened := rest }
    else adopt 8 tag b
  | [] => b

/-- Ends a link that is still remembered when the next one begins. -/
def closeLink (b : Builder) : Builder :=
  match latest? "a" b.formatting with
  | none => b
  | some (i, _) => ((b.closeFormatting "a").forget i).removeOpen i

end Expectation.Html.Builder
