import Expectation.Html.Tree

/-!
# A tree under construction

While a page is read its parts are moved about, so they are kept as numbered
cells that name their parent and their children. When the page is complete the
cells are read off as a `Tree`.

Text that is added next to text is joined to it; two texts that come to stand
side by side later stay apart.
-/

namespace Expectation.Html

/-- The vocabulary of an element. -/
inductive Space where
  | html
  | svg
  | math
  deriving DecidableEq, Repr

/-- What a cell stands for. -/
inductive Item where
  /-- The page. -/
  | page
  | element (space : Space) (tag : String) (attributes : List Attribute)
  | text (text : String)
  | comment (text : String)
  | doctype (name : String)
  /-- The content of a template, which is not part of the page. -/
  | inert
  deriving DecidableEq, Repr

/-- A part of the tree. -/
structure Cell where
  item : Item
  parent : Option Nat := none
  children : List Nat := []
  deriving Repr

/-- The cells of a tree under construction. -/
structure Store where
  cells : Array Cell

namespace Store

/-- The store with nothing but a page, which is cell zero. -/
def empty : Store := ⟨#[⟨.page, none, []⟩]⟩

/-- The number of the page. -/
def page : Nat := 0

def cell? (s : Store) (i : Nat) : Option Cell := s.cells[i]?

def modify (s : Store) (i : Nat) (f : Cell → Cell) : Store :=
  match s.cells[i]? with
  | some c => ⟨s.cells.setIfInBounds i (f c)⟩
  | none => s

/-- A new cell that is nobody's child. -/
def create (s : Store) (item : Item) : Nat × Store :=
  (s.cells.size, ⟨s.cells.push ⟨item, none, []⟩⟩)

def parent? (s : Store) (i : Nat) : Option Nat := (s.cell? i).bind Cell.parent

def children (s : Store) (i : Nat) : List Nat := ((s.cell? i).map Cell.children).getD []

/-- Takes a cell out of its parent. -/
def detach (s : Store) (i : Nat) : Store :=
  match s.parent? i with
  | none => s
  | some p =>
    (s.modify p fun c => { c with children := c.children.erase i }).modify i
      fun c => { c with parent := none }

/-- Makes a cell the last child of another. -/
def append (s : Store) (p i : Nat) : Store :=
  ((s.detach i).modify p fun c => { c with children := c.children ++ [i] }).modify i
    fun c => { c with parent := some p }

/-- A list with an entry in front of another. -/
def putBefore (place i : Nat) : List Nat → List Nat
  | [] => []
  | j :: js => if j = place then i :: j :: js else j :: putBefore place i js

/-- Puts a cell in front of a sibling. -/
def insertBefore (s : Store) (sibling i : Nat) : Store :=
  let s := s.detach i
  match s.parent? sibling with
  | none => s
  | some p =>
    (s.modify p fun c => { c with children := putBefore sibling i c.children }).modify i
      fun c => { c with parent := some p }

/-- Whether a cell is a text. -/
def isText (s : Store) (i : Nat) : Bool :=
  match s.cell? i with
  | some ⟨.text _, _, _⟩ => true
  | _ => false

/-- Adds to a text. -/
def extendText (s : Store) (i : Nat) (more : String) : Store :=
  s.modify i fun c =>
    match c.item with
    | .text t => { c with item := .text (t ++ more) }
    | _ => c

/-- Adds text at the end of a cell. -/
def appendText (s : Store) (p : Nat) (text : String) : Store :=
  match (s.children p).getLast? with
  | some last =>
    if s.isText last then s.extendText last text
    else
      let (i, s) := s.create (.text text)
      s.append p i
  | none =>
    let (i, s) := s.create (.text text)
    s.append p i

/-- The entry in front of another in a list. -/
def entryBefore? (place : Nat) : List Nat → Option Nat
  | i :: j :: js => if j = place then some i else entryBefore? place (j :: js)
  | _ => none

/-- Adds text in front of a sibling. -/
def insertTextBefore (s : Store) (sibling : Nat) (text : String) : Store :=
  let insertNew : Store :=
    let (i, s) := s.create (.text text)
    s.insertBefore sibling i
  match (s.parent? sibling).bind fun p => entryBefore? sibling (s.children p) with
  | some i => if s.isText i then s.extendText i text else insertNew
  | none => insertNew

/-- Moves the children of a cell to the end of another. -/
def moveChildren (s : Store) (source target : Nat) : Store :=
  (s.children source).foldl (fun s i => s.append target i) s

/-- Adds the attributes that an element lacks. -/
def addAttributes (s : Store) (i : Nat) (new : List Attribute) : Store :=
  s.modify i fun c =>
    match c.item with
    | .element space tag attributes =>
      { c with item := .element space tag (Attribute.addMissing attributes new) }
    | _ => c

/-- The trees of cells; `fuel` bounds the number of cells on any way through
them. -/
def trees (s : Store) : Nat → List Nat → List Tree
  | 0, _ => []
  | _, [] => []
  | fuel + 1, i :: rest =>
    let here := match s.cell? i with
      | some ⟨.element _ tag attributes, _, children⟩ =>
        [.element tag attributes (trees s fuel children)]
      | some ⟨.text t, _, _⟩ => [.text t]
      | some ⟨.comment t, _, _⟩ => [.comment t]
      | some ⟨.doctype name, _, _⟩ => [.doctype name]
      | _ => []
    here ++ trees s fuel rest

/-- The parts of the page. -/
def content (s : Store) : List Tree := s.trees (s.cells.size + 1) (s.children page)

end Store

end Expectation.Html
