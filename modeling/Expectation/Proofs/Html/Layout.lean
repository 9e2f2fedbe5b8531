import Expectation.Html.Printing
import Expectation.Proofs.Html.Attributes
import Expectation.Proofs.Html.Rewriting

/-!
# The lines of a page

Pages are written from nodes, which carry paths, and read back as plain trees.  Paths say nothing
about what is written, so the lines of a page are given for its trees here, as characters; and
what the layout of a page leaves of it is a matter of trees too.  The vocabularies of attributes are
not written, so they count as layout.

## Main results

* `wrap_literal`: the page that trees are read as literally.
* `bare_pageOf`, `padded_pageOf`: layout and padding are those of the trees.
* `expectedText_pageOf`: what is written for a page are the lines of its trees.
-/

namespace Expectation.Html

/-! ## Attributes of nodes -/

/-- The attributes of the node of an element that is read literally. -/
theorem ofPairs_literal (as : List Attribute) :
    Json.ofPairs (as.map fun a => (a.name, Value.literal a.value)) =
      (Attribute.plain as).map fun a => (a.name, Value.literal a.value) := by
  have hpairs := Json.ofPairs_map Value.literal (as.map Attribute.pair)
  rw [List.map_map] at hpairs
  rw [Attribute.plain, List.map_map]
  exact hpairs

theorem ofPairs_plain (as : List Attribute) :
    Json.ofPairs ((Attribute.plain as).map fun a => (a.name, Value.literal a.value)) =
      Json.ofPairs (as.map fun a => (a.name, Value.literal a.value)) := by
  rw [ofPairs_literal, Attribute.plain_of_sorted (Attribute.sorted_plain as), ofPairs_literal]

/-! ## Nodes of trees -/

namespace Tree

mutual

/-- The node of a tree that is read literally. -/
def literal (parent : String) (seen : List String) : Tree → Node
  | .element tag as ts =>
    let path := elementPath parent tag (seen.count tag)
    .element path tag (Json.ofPairs (as.map fun a => (a.name, .literal a.value)))
      (literals path [] ts)
  | .text s => .text (suffixedPath parent "(text)") (.literal s)
  | .comment s => .comment (suffixedPath parent "(comment)") s
  | .doctype name => .doctype doctypePath name

/-- The nodes of trees that are read literally. -/
def literals (parent : String) (seen : List String) : List Tree → List Node
  | [] => []
  | t :: ts => literal parent seen t :: literals parent (t.passed seen) ts

end

mutual

theorem node_literal (parent : String) (seen : List String) (t : Tree) :
    t.node resolveLiteral parent seen = .ok (t.literal parent seen) := by
  cases t with
  | element tag as ts =>
      simp only [node, resolveAttributes_literal, nodes_literals _ _ ts]
      rfl
  | text | comment | doctype => rfl

theorem nodes_literals (parent : String) (seen : List String) (ts : List Tree) :
    nodes resolveLiteral parent seen ts = .ok (literals parent seen ts) := by
  cases ts with
  | nil => rfl
  | cons t ts =>
      simp only [nodes, node_literal parent seen t, nodes_literals parent _ ts]
      rfl

end

end Tree

/-- The page that trees are the parts of. -/
def pageOf (ts : List Tree) : Node := .element "" documentTag [] (Tree.literals "" [] ts)

/-- **What trees are read as.** -/
theorem wrap_literal (ts : List Tree) : wrap resolveLiteral ts = .ok (pageOf ts) := by
  rw [wrap, Tree.nodes_literals]
  rfl

/-! ## Layout -/

namespace Tree

/-- A text without anything but blanks. -/
def isBlankText : Tree → Bool
  | .text s => Text.allBlank s
  | _ => false

mutual

/-- The tree without its layout. -/
def bare : Tree → Tree
  | .element tag as ts => .element tag (Attribute.plain as) (bareList ts)
  | .text s => .text (Text.trimmed s)
  | t => t

/-- The trees without their layout. -/
def bareList : List Tree → List Tree
  | [] => []
  | t :: ts => if t.isBlankText then bareList ts else bare t :: bareList ts

end

mutual

/-- The tree with its comments as they are written. -/
def padded : Tree → Tree
  | .element tag as ts => .element tag as (paddedList ts)
  | .comment s => .comment (Node.paddedText s)
  | t => t

/-- The trees with their comments as they are written. -/
def paddedList : List Tree → List Tree
  | [] => []
  | t :: ts => padded t :: paddedList ts

end

theorem bareList_eq (ts : List Tree) :
    bareList ts = (ts.filter (!·.isBlankText)).map bare := by
  induction ts with
  | nil => rfl
  | cons t ts ih => cases h : t.isBlankText <;> simp [bareList, h, ih]

@[simp] theorem bareList_append (ts us : List Tree) :
    bareList (ts ++ us) = bareList ts ++ bareList us := by
  simp [bareList_eq]

@[simp] theorem isBlankText_padded (t : Tree) : t.padded.isBlankText = t.isBlankText := by
  cases t <;> rfl

theorem isBlankText_literal (parent : String) (seen : List String) (t : Tree) :
    (t.literal parent seen).isBlankText = t.isBlankText := by
  cases t <;> rfl

theorem passed_of_isBlankText {t : Tree} (h : t.isBlankText = true) (seen : List String) :
    t.passed seen = seen := by
  cases t with
  | text => rfl
  | element | comment | doctype => simp [isBlankText] at h

theorem passed_bare (t : Tree) (seen : List String) : t.bare.passed seen = t.passed seen := by
  cases t <;> rfl

theorem passed_padded (t : Tree) (seen : List String) : t.padded.passed seen = t.passed seen := by
  cases t <;> rfl

mutual

theorem literal_bare (parent : String) (seen : List String) (t : Tree) :
    t.bare.literal parent seen = (t.literal parent seen).bare := by
  cases t with
  | element tag as ts =>
      simp [bare, literal, Node.bare, ofPairs_plain, literals_bareList _ _ ts]
  | text | comment | doctype => rfl

theorem literals_bareList (parent : String) (seen : List String) (ts : List Tree) :
    literals parent seen (bareList ts) = Node.bareList (literals parent seen ts) := by
  cases ts with
  | nil => rfl
  | cons t ts =>
      cases h : t.isBlankText with
      | true =>
          simp [bareList, literals, Node.bareList, isBlankText_literal, h,
            passed_of_isBlankText h, literals_bareList parent seen ts]
      | false =>
          simp [bareList, literals, Node.bareList, isBlankText_literal, h, passed_bare,
            literal_bare parent seen t, literals_bareList parent _ ts]

end

mutual

theorem literal_padded (parent : String) (seen : List String) (t : Tree) :
    t.padded.literal parent seen = (t.literal parent seen).padded := by
  cases t with
  | element tag as ts => simp [padded, literal, Node.padded, literals_paddedList _ _ ts]
  | text | comment | doctype => rfl

theorem literals_paddedList (parent : String) (seen : List String) (ts : List Tree) :
    literals parent seen (paddedList ts) = Node.paddedList (literals parent seen ts) := by
  cases ts with
  | nil => rfl
  | cons t ts =>
      simp [paddedList, literals, Node.paddedList, passed_padded, literal_padded parent seen t,
        literals_paddedList parent _ ts]

end

end Tree

/-- **The layout of a page** is that of its trees. -/
theorem bare_pageOf (ts : List Tree) : (pageOf ts).bare = pageOf (Tree.bareList ts) := by
  rw [pageOf, pageOf, Node.bare, Tree.literals_bareList]

/-- **So are its comments.** -/
theorem padded_pageOf (ts : List Tree) : (pageOf ts).padded = pageOf (Tree.paddedList ts) := by
  rw [pageOf, pageOf, Node.padded, Tree.literals_paddedList]

/-! ## Lines -/

/-- The front of a line at a depth. -/
def margin (depth : Nat) : List Char := List.replicate (2 * depth) ' '

/-- A literal text as it is written between tags. -/
def writtenChars (raw : Bool) (s : String) : List Char :=
  if raw then Text.trim s.toList else escapeText ['&', '<', '>'] (Text.trim s.toList)

namespace Tree

/-- What stands between two tags: nothing, one text, or several lines. -/
def between (raw : Bool) (ts : List Tree) (several : List Char) : List Char :=
  match ts.filter (!·.isBlankText) with
  | [] => []
  | [.text s] => writtenChars raw s
  | _ => several

mutual

/-- The lines of a tree. -/
def line (depth : Nat) (raw : Bool) : Tree → List Char
  | .element tag as ts =>
    let raw := isAmong rawTags tag
    margin depth ++ openingText tag (Attribute.plain as) ++
      if isAmong voidTags tag then []
      else between raw ts (lines (depth + 1) raw ts ++ '\n' :: margin depth) ++ closingText tag
  | .text s => margin depth ++ writtenChars raw s
  | .comment s => margin depth ++ commentText s
  | .doctype name => margin depth ++ doctypeText name

/-- The lines of trees, each behind a line end. -/
def lines (depth : Nat) (raw : Bool) : List Tree → List Char
  | [] => []
  | t :: ts =>
    if t.isBlankText then lines depth raw ts else '\n' :: line depth raw t ++ lines depth raw ts

end

/-- An element with tags and escaped texts. -/
theorem line_element {tag : String} (hvoid : isAmong voidTags tag = false)
    (hraw : isAmong rawTags tag = false) (depth : Nat) (raw : Bool) (as : List Attribute)
    (ts : List Tree) :
    (element tag as ts).line depth raw = margin depth ++ (openingText tag (Attribute.plain as) ++
      (between false ts (lines (depth + 1) false ts ++ '\n' :: margin depth) ++
        closingText tag)) := by
  simp [line, hvoid, hraw]

/-- Trees whose elements have the names of elements. -/
inductive Orderly : Tree → Prop where
  | element {tag : String} {as : List Attribute} {ts : List Tree} (htag : tag ≠ documentTag)
      (hts : ∀ t ∈ ts, t.Orderly) : Orderly (.element tag as ts)
  | text {s : String} : Orderly (.text s)
  | comment {s : String} : Orderly (.comment s)
  | doctype {name : String} : Orderly (.doctype name)

end Tree

theorem toList_indent (depth : Nat) : (indent depth).toList = margin depth :=
  String.toList_ofList

theorem toList_writtenText (raw : Bool) (s : String) :
    (writtenText raw (.literal s)).toList = writtenChars raw s :=
  String.toList_ofList

theorem toList_writtenAttributes (as : List Attribute) :
    (writtenAttributes (Json.ofPairs (as.map fun a => (a.name, .literal a.value)))).toList =
      (Attribute.plain as).flatMap attributeText := by
  rw [ofPairs_literal, writtenAttributes, String.toList_join, List.map_map, List.flatMap_map]
  refine List.flatMap_congr fun a _ => ?_
  simp [attributeText, writtenValue]

/-- Lines that are kept apart by line ends, behind a line end. -/
theorem cons_intercalate {ls : List (List Char)} (h : ls ≠ []) :
    '\n' :: List.intercalate ['\n'] ls = ls.flatMap ('\n' :: ·) := by
  obtain ⟨l, ls, rfl⟩ := List.exists_cons_of_ne_nil h
  clear h
  induction ls generalizing l with
  | nil => simp
  | cons k ls ih =>
      rw [List.intercalate_cons_cons, List.flatMap_cons, ← ih k]
      simp

theorem prettyList_eq (depth : Nat) (raw : Bool) (ns : List Node) :
    Node.prettyList depth raw ns = (ns.filter (!·.isBlankText)).map (Node.prettyAt depth raw) := by
  induction ns with
  | nil => rfl
  | cons n ns ih => cases h : n.isBlankText <;> simp [Node.prettyList, h, ih]

namespace Tree

theorem filter_literals (parent : String) (seen : List String) (ts : List Tree) :
    (literals parent seen ts).filter (!·.isBlankText) =
      literals parent seen (ts.filter (!·.isBlankText)) := by
  induction ts generalizing seen with
  | nil => rfl
  | cons t ts ih =>
      cases h : t.isBlankText with
      | true => simp [literals, isBlankText_literal, h, passed_of_isBlankText h, ih]
      | false => simp [literals, isBlankText_literal, h, ih]

/-- The lines of trees, each behind a line end. -/
theorem flatMap_prettyList {depth : Nat} {raw : Bool} {ts : List Tree}
    (h : ∀ t ∈ ts, ∀ parent seen,
      ((t.literal parent seen).prettyAt depth raw).toList = t.line depth raw)
    (parent : String) (seen : List String) :
    ((Node.prettyList depth raw (literals parent seen ts)).map String.toList).flatMap
      ('\n' :: ·) = lines depth raw ts := by
  induction ts generalizing seen with
  | nil => rfl
  | cons t ts ih =>
      have hts := ih (fun u hu => h u (List.mem_cons_of_mem t hu)) (t.passed seen)
      cases ht : t.isBlankText with
      | true => simpa [literals, Node.prettyList, isBlankText_literal, lines, ht] using hts
      | false =>
          simpa [literals, Node.prettyList, isBlankText_literal, lines, ht,
            h t List.mem_cons_self] using hts

/-- The lines of trees that are not all left out. -/
theorem cons_intercalate_prettyList (depth : Nat) (raw : Bool) {ts : List Tree}
    (h : ∀ t ∈ ts, ∀ parent seen,
      ((t.literal parent seen).prettyAt depth raw).toList = t.line depth raw)
    (hne : ts.filter (!·.isBlankText) ≠ []) (parent : String) (seen : List String) :
    '\n' :: List.intercalate ['\n']
      ((Node.prettyList depth raw (literals parent seen ts)).map String.toList) =
        lines depth raw ts := by
  have hlines : Node.prettyList depth raw (literals parent seen ts) ≠ [] := by
    rw [prettyList_eq, filter_literals]
    obtain ⟨u, us, hus⟩ := List.exists_cons_of_ne_nil hne
    simp [hus, literals]
  rw [cons_intercalate (by simpa using hlines), flatMap_prettyList h]

/-- **What is written for a tree.** -/
theorem Orderly.toList_prettyAt {t : Tree} (ht : t.Orderly) (depth : Nat) (raw : Bool)
    (parent : String) (seen : List String) :
    ((t.literal parent seen).prettyAt depth raw).toList = t.line depth raw := by
  induction ht generalizing depth raw parent seen with
  | @element tag as ts htag hts ih =>
      have hlines := fun hne => cons_intercalate_prettyList (depth + 1)
        (isAmong rawTags tag) (fun u hu => ih u hu _ _) hne
        (elementPath parent tag (seen.count tag)) []
      have hopening : (indent depth ++ "<" ++ tag ++ writtenAttributes (Json.ofPairs
          (as.map fun a => (a.name, .literal a.value))) ++ ">").toList =
            margin depth ++ openingText tag (Attribute.plain as) := by
        simp [toList_writtenAttributes, toList_indent, openingText]
      have hclosing : ("</" ++ tag ++ ">").toList = closingText tag := by simp [closingText]
      rw [literal, Node.prettyAt, if_neg htag, line, between, filter_literals]
      split
      · simp [hopening]
      · generalize ts.filter (!·.isBlankText) = us at hlines
        rcases us with _ | ⟨u, _ | ⟨v, us⟩⟩
        · simp [literals, hopening, hclosing]
        · cases u with
          | text s => simp [literals, literal, hopening, hclosing, toList_writtenText]
          | element | comment | doctype =>
              simp [literals, literal, hopening, hclosing, toList_indent, ← hlines]
        · simp [literals, hopening, hclosing, toList_indent, ← hlines]
  | text => simp [literal, Node.prettyAt, line, toList_indent, toList_writtenText]
  | comment =>
      simp [literal, Node.prettyAt, line, toList_indent, commentText, Node.paddedText]
  | doctype => simp [literal, Node.prettyAt, line, toList_indent, doctypeText]

end Tree

/-- **What is written for a page** are the lines of its trees. -/
theorem expectedText_pageOf {ts : List Tree} (hts : ∀ t ∈ ts, t.Orderly)
    (hne : ts.filter (!·.isBlankText) ≠ []) :
    '\n' :: (pageOf ts).expectedText.toList = Tree.lines 0 false ts ++ ['\n'] := by
  have hpretty : (pageOf ts).pretty =
      "\n".intercalate (Node.prettyList 0 false (Tree.literals "" [] ts)) := by
    rw [Node.pretty, pageOf, Node.prettyAt, if_pos rfl]
  rw [Node.expectedText, hpretty, String.toList_append, String.toList_intercalate,
    ← List.cons_append]
  exact congrArg (· ++ ['\n']) (Tree.cons_intercalate_prettyList 0 false
    (fun u hu => (hts u hu).toList_prettyAt _ _) hne _ _)

end Expectation.Html
