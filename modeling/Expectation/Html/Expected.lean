import Expectation.DocumentError
import Expectation.Html.Construction
import Expectation.Html.Node

/-!
# Expected and actual pages

A page is read into a tree and the tree into nodes that carry their paths. An
element is named by its tag and, if earlier siblings have the same tag, by their
number; its path is the way to it from the root. Texts and comments share the
path of the element around them.

In an expected page the placeholders are replaced by sentinels before the page
is read, and every text and attribute value is then resolved: one that is just
a sentinel becomes a matcher, one with sentinels among other text a template,
and where that is not possible the text is put back as it was.

## Main results

* `path_node`: where the path of an element comes from.
-/

namespace Expectation.Html

/-! ## Paths -/

/-- The path of a declaration. -/
def doctypePath : String := "<!DOCTYPE>"

/-- The path of an element with so many earlier siblings of the same tag. -/
def elementPath (parent tag : String) (index : Nat) : String :=
  let step := if index = 0 then tag else tag ++ "[" ++ toString index ++ "]"
  if parent.isEmpty then step else parent ++ " > " ++ step

/-- The path of a text or comment, which has no name of its own. -/
def suffixedPath (parent suffix : String) : String :=
  if parent.isEmpty then suffix else parent ++ " " ++ suffix

/-! ## Nodes -/

/-- The values of attributes by name, with what `resolve` makes of each; of two
attributes with one name the later counts. -/
def resolveAttributes {ε : Type} (resolve : String → Except ε Value) :
    List Attribute → Except ε (List (String × Value))
  | [] => .ok []
  | a :: as =>
    match resolve a.value with
    | .error e => .error e
    | .ok v => (resolveAttributes resolve as).map ((a.name, v) :: ·)

/-- The tags of the siblings passed, with that of one more. -/
def Tree.passed (seen : List String) : Tree → List String
  | .element tag _ _ => tag :: seen
  | _ => seen

mutual

/-- The node of a tree below a path, behind siblings with the given tags;
`resolve` says what texts and attribute values mean. -/
def Tree.node {ε : Type} (resolve : String → Except ε Value) (parent : String)
    (seen : List String) : Tree → Except ε Node
  | .element tag attributes children =>
    let path := elementPath parent tag (seen.count tag)
    match resolveAttributes resolve attributes with
    | .error e => .error e
    | .ok values =>
      (Tree.nodes resolve path [] children).map (.element path tag (Json.ofPairs values))
  | .text t => (resolve t).map (.text (suffixedPath parent "(text)"))
  | .comment t => .ok (.comment (suffixedPath parent "(comment)") t)
  | .doctype name => .ok (.doctype doctypePath name)

/-- The nodes of the trees below a path. -/
def Tree.nodes {ε : Type} (resolve : String → Except ε Value) (parent : String)
    (seen : List String) : List Tree → Except ε (List Node)
  | [] => .ok []
  | t :: ts =>
    match Tree.node resolve parent seen t with
    | .error e => .error e
    | .ok n => (Tree.nodes resolve parent (t.passed seen) ts).map (n :: ·)

end

/-- The node that wraps the parts of a page. -/
def wrap {ε : Type} (resolve : String → Except ε Value) (parts : List Tree) : Except ε Node :=
  (Tree.nodes resolve "" [] parts).map (.element "" documentTag [])

/-- An element stands at the path that its parent, its tag and the number of its
earlier siblings make up. -/
theorem path_node {ε : Type} {resolve : String → Except ε Value} {parent tag : String}
    {seen : List String} {attributes : List Attribute} {children : List Tree} {n : Node}
    (h : Tree.node resolve parent seen (.element tag attributes children) = .ok n) :
    n.path = elementPath parent tag (seen.count tag) := by
  unfold Tree.node at h
  split at h
  · contradiction
  · cases hn : Tree.nodes resolve (elementPath parent tag (seen.count tag)) [] children with
    | error e => simp [hn, Except.map] at h
    | ok ns =>
      simp only [hn, Except.map, Except.ok.injEq] at h
      simp [← h, Node.path]

/-! ## Resolving placeholders -/

open Placeholder (Piece pieces)

/-- The parts of a template for pieces of a value, unless a matcher among them
cannot stand inside longer text. -/
def templateParts? (s : Substitution) : List Piece → Option (List Template.Part)
  | [] => some []
  | .literal cs :: rest =>
    (templateParts? s rest).map (.literal (String.ofList cs) :: ·)
  | .mark i :: rest =>
    match s.matcher i with
    | .ok m => if m.embeddable then (templateParts? s rest).map (.matcher m :: ·) else none
    | .error _ => none

/-- Whether a piece is a sentinel. -/
def isMark : Piece → Bool
  | .mark _ => true
  | .literal _ => false

/-- What a text or an attribute value of an expected page means. -/
def resolve (s : Substitution) (raw : String) : Except DocumentError Value :=
  let ps := pieces (s.tokens raw)
  if !ps.any isMark then .ok (.literal raw)
  else
    match s.whole? (Text.trimmed raw) with
    | some i => (s.matcher i).map .matcher
    | none =>
      match templateParts? s ps with
      | none => .ok (.literal (s.restore raw))
      | some parts =>
        match Template.ofParts parts with
        | .ok t => .ok (.template t)
        | .error refused => .error (.matcher (s.restore raw) (.refusedPattern refused))

/-! ## Reading pages -/

/-- An expected page: its tree, and the placeholders found in its text. -/
structure Expected where
  root : Node
  substitution : Substitution

/-- Reads an expected page. -/
def readExpected (text : String) : Except DocumentError Expected :=
  let s := Substitution.ofText .plain text
  (wrap (resolve s) (Tree.ofText s.text)).map fun root => ⟨root, s⟩

/-- The tree of an actual page, in which placeholders mean nothing. -/
def readActualText (text : String) : Except DocumentError Node :=
  wrap (fun raw => .ok (.literal raw)) (Tree.ofText text)

/-- Reads an actual page. -/
def readActual (bytes : List UInt8) : Except DocumentError Node :=
  match Text.decode bytes with
  | .error (offset, fault) => .error (.encoding offset fault)
  | .ok text => readActualText text

end Expectation.Html
