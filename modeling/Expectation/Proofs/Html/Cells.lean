import Expectation.Html.Store
import Mathlib.Data.List.Forall2

/-!
# What the cells of an unfinished page stand for

While a page is read its parts are numbered cells.  At any time some cells are open: each of them
is the last child of the next, out to the page itself.  What lies behind the open ones is closed
and stands for trees.  So the cells *show* a list of open parts with the trees in each, and the
operations on cells are described by what they do to this list: a new cell opens a part, closing
makes the innermost part a tree in the next one, and text is added to the innermost part.  A comment
may also be put behind an open part, where it waits for that part to be closed, and an element may
hold nothing but a cell for what is kept apart from the page.

That these operations leave the closed trees alone rests on two facts.  A closed cell is none of
the open ones, which are *busy*.  And cells are numbered in the order in which they come into
being, so that the number of cells bounds the way through them when the page is read off.

## Main results

* `trees_of_denotesAll`: the trees that cells stand for are read off them.
* `Shows.attach`, `Shows.close`, `Shows.appendText`: opening, closing and adding text.
* `Shows.attachBehind`, `Shows.attachHollow`: comments behind open parts, and templates.
* `Shows.content`: what a finished page holds.
-/

namespace Expectation.Html

/-! ## Parts of a page -/

/-- An open part of the page: what it is, the trees in it so far, and the comments behind the part
in it that is open. -/
structure Frame where
  item : Item
  kids : List Tree := []
  behind : List String := []

/-- A part with one more tree in it, in the place of the open part. -/
def Frame.add (f : Frame) (t : Tree) : Frame :=
  ⟨f.item, f.kids ++ t :: f.behind.map .comment, []⟩

/-- The tree that a part is when it is closed. -/
def Item.tree? (kids : List Tree) : Item → Option Tree
  | .element _ tag as => some (.element tag as kids)
  | .comment t => if kids.isEmpty then some (.comment t) else none
  | .doctype name => if kids.isEmpty then some (.doctype name) else none
  | .page | .text _ | .inert => none

/-- The trees in an open part with more text behind them. -/
def addText (kids : List Tree) (text : String) : List Tree :=
  match kids.getLast? with
  | some (.text t) => kids.dropLast ++ [.text (t ++ text)]
  | _ => kids ++ [.text text]

theorem addText_concat (kids : List Tree) (s text : String) :
    addText (kids ++ [.text s]) text = kids ++ [.text (s ++ text)] := by
  simp [addText]

theorem addText_of_no_text {kids : List Tree} (h : ∀ s, kids.getLast? ≠ some (.text s))
    (text : String) : addText kids text = kids ++ [.text text] := by
  rw [addText]
  split
  · next s hs => exact absurd hs (h s)
  · rfl

/-- Text is added to the text at the end, or there is none. -/
theorem addText_cases (kids : List Tree) :
    (∃ front s, kids = front ++ [.text s]) ∨ ∀ s, kids.getLast? ≠ some (.text s) := by
  by_cases h : ∃ s, kids.getLast? = some (.text s)
  · obtain ⟨s, hs⟩ := h
    obtain ⟨front, rfl⟩ := List.getLast?_eq_some_iff.mp hs
    exact .inl ⟨front, s, rfl⟩
  · exact .inr fun s hs => h ⟨s, hs⟩

theorem addText_addText (kids : List Tree) (a b : String) :
    addText (addText kids a) b = addText kids (a ++ b) := by
  rcases addText_cases kids with ⟨front, s, rfl⟩ | hno
  · rw [addText_concat, addText_concat, addText_concat, String.append_assoc]
  · rw [addText_of_no_text hno, addText_of_no_text hno, addText_concat]

namespace Store

/-! ## Cells -/

theorem lt_of_cell? {s : Store} {i : Nat} {c : Cell} (h : s.cell? i = some c) :
    i < s.cells.size :=
  (Array.getElem?_eq_some_iff.mp h).1

theorem cell?_modify (s : Store) (i : Nat) (f : Cell → Cell) (j : Nat) :
    (s.modify i f).cell? j = if j = i then (s.cell? i).map f else s.cell? j := by
  unfold modify cell?
  split
  · rename_i c hc
    have hlt := (Array.getElem?_eq_some_iff.mp hc).1
    simp only [Array.getElem?_setIfInBounds, hc]
    by_cases hj : i = j
    · simp [hj, hj ▸ hlt]
    · simp [hj, Ne.symm hj]
  · rename_i hc
    by_cases hj : j = i <;> simp [hj, hc]

theorem cell?_create (s : Store) (item : Item) (j : Nat) :
    (s.create item).2.cell? j = if j = s.cells.size then some ⟨item, none, []⟩ else s.cell? j := by
  by_cases hj : j = s.cells.size <;> simp [create, cell?, Array.getElem?_push, hj]

/-- A cell that is nobody's child becomes the last child of another. -/
theorem cell?_append {s : Store} {p i : Nat} {c d : Cell} (hp : s.cell? p = some c)
    (hi : s.cell? i = some d) (hfree : d.parent = none) (hne : i ≠ p) (j : Nat) :
    (s.append p i).cell? j =
      if j = i then some { d with parent := some p }
      else if j = p then some { c with children := c.children ++ [i] } else s.cell? j := by
  have hdetach : s.detach i = s := by
    have hparent : s.parent? i = none := by simp [parent?, hi, hfree]
    rw [detach, hparent]
  rw [append, hdetach, cell?_modify, cell?_modify, cell?_modify]
  by_cases hj : j = i
  · simp [hj, hne, hi]
  · simp [hj, hp]

/-- A new cell as the last child of another. -/
def attach (s : Store) (p : Nat) (item : Item) : Store :=
  (s.create item).2.append p s.cells.size

theorem cell?_attach {s : Store} {p : Nat} {c : Cell} (hp : s.cell? p = some c) (item : Item)
    (j : Nat) :
    (s.attach p item).cell? j =
      if j = s.cells.size then some ⟨item, some p, []⟩
      else if j = p then some { c with children := c.children ++ [s.cells.size] }
      else s.cell? j := by
  have hne := Nat.ne_of_lt (lt_of_cell? hp)
  have hold : (s.create item).2.cell? p = some c := by rw [cell?_create, if_neg hne, hp]
  have hnew : (s.create item).2.cell? s.cells.size = some ⟨item, none, []⟩ := by
    rw [cell?_create, if_pos rfl]
  rw [attach, cell?_append hold hnew rfl hne.symm, cell?_create]
  by_cases hj : j = s.cells.size <;> simp [hj]

/-- A new cell as the last child of another, with a cell in it for what is kept apart. -/
def attachHollow (s : Store) (p : Nat) (item : Item) : Store :=
  ((s.create item).2.attach s.cells.size .inert).append p s.cells.size

theorem cell?_attachHollow {s : Store} {p : Nat} {c : Cell} (hp : s.cell? p = some c)
    (item : Item) (j : Nat) :
    (s.attachHollow p item).cell? j =
      if j = s.cells.size then some ⟨item, some p, [s.cells.size + 1]⟩
      else if j = p then some { c with children := c.children ++ [s.cells.size] }
      else if j = s.cells.size + 1 then some ⟨.inert, some s.cells.size, []⟩
      else s.cell? j := by
  have hlt := lt_of_cell? hp
  have hsize : (s.create item).2.cells.size = s.cells.size + 1 := by simp [create]
  have hnew : (s.create item).2.cell? s.cells.size = some ⟨item, none, []⟩ := by
    rw [cell?_create, if_pos rfl]
  have hcell := fun k => cell?_attach hnew .inert k
  simp only [hsize, cell?_create] at hcell
  have hold : ((s.create item).2.attach s.cells.size .inert).cell? p = some c := by
    rw [hcell, if_neg (by omega), if_neg (by omega), if_neg (by omega), hp]
  have hitem : ((s.create item).2.attach s.cells.size .inert).cell? s.cells.size =
      some ⟨item, none, [s.cells.size + 1]⟩ := by
    rw [hcell, if_neg (by omega), if_pos rfl]
    rfl
  rw [attachHollow, cell?_append hold hitem rfl (by omega), hcell]
  by_cases hj : j = s.cells.size <;> simp [hj]

attribute [irreducible] attachHollow

/-! ## Closed parts -/

/-- Cells that hold what is kept apart from the page, none of which is busy. -/
def Inert (s : Store) (busy is : List Nat) : Prop :=
  ∀ i ∈ is, i ∉ busy ∧ ∃ parent children, s.cell? i = some ⟨.inert, parent, children⟩

mutual

/-- A cell, with those below it, stands for a tree, and none of these cells is busy.  The cells
below another have greater numbers, in ascending order.  What is kept apart stands for nothing. -/
def Denotes (s : Store) (busy : List Nat) : Tree → Nat → Prop
  | .element tag as ts, i => i ∉ busy ∧ ∃ space parent children,
      s.cell? i = some ⟨.element space tag as, parent, children⟩ ∧
        (DenotesAll s busy ts i children ∨ ts = [] ∧ Inert s busy children)
  | .text t, i => i ∉ busy ∧ ∃ parent children, s.cell? i = some ⟨.text t, parent, children⟩
  | .comment t, i => i ∉ busy ∧ ∃ parent children, s.cell? i = some ⟨.comment t, parent, children⟩
  | .doctype name, i =>
      i ∉ busy ∧ ∃ parent children, s.cell? i = some ⟨.doctype name, parent, children⟩

/-- Cells with numbers above `low` stand for trees. -/
def DenotesAll (s : Store) (busy : List Nat) : List Tree → Nat → List Nat → Prop
  | [], _, is => is = []
  | t :: ts, low, is => ∃ i rest, is = i :: rest ∧ low < i ∧ Denotes s busy t i ∧
      DenotesAll s busy ts i rest

end

theorem denotesAll_nil {s : Store} {busy : List Nat} {low : Nat} {is : List Nat} :
    DenotesAll s busy [] low is ↔ is = [] := by
  rw [DenotesAll]

theorem denotesAll_cons {s : Store} {busy : List Nat} {t : Tree} {ts : List Tree} {low : Nat}
    {is : List Nat} :
    DenotesAll s busy (t :: ts) low is ↔ ∃ i rest, is = i :: rest ∧ low < i ∧
      Denotes s busy t i ∧ DenotesAll s busy ts i rest := by
  rw [DenotesAll]

theorem Denotes.not_busy {s : Store} {busy : List Nat} {t : Tree} {i : Nat}
    (h : Denotes s busy t i) : i ∉ busy ∧ ∃ c, s.cell? i = some c := by
  cases t <;> unfold Denotes at h
  · obtain ⟨hi, _, _, _, hc, -⟩ := h
    exact ⟨hi, _, hc⟩
  all_goals
    obtain ⟨hi, _, _, hc⟩ := h
    exact ⟨hi, _, hc⟩

section Changes

variable {s s' : Store} {busy busy' : List Nat}

theorem Inert.imp (h : ∀ j c, j ∉ busy → s.cell? j = some c → j ∉ busy' ∧ s'.cell? j = some c)
    {is : List Nat} (his : Inert s busy is) : Inert s' busy' is := by
  intro i hi
  obtain ⟨hbusy, parent, children, hc⟩ := his i hi
  exact ⟨(h i _ hbusy hc).1, parent, children, (h i _ hbusy hc).2⟩

mutual

/-- A tree stays as it is when the cells that are not busy do. -/
theorem Denotes.imp (h : ∀ j c, j ∉ busy → s.cell? j = some c → j ∉ busy' ∧ s'.cell? j = some c) :
    ∀ (t : Tree) {i : Nat}, Denotes s busy t i → Denotes s' busy' t i
  | .element tag as ts, i, ht => by
      unfold Denotes at ht ⊢
      obtain ⟨hi, space, parent, children, hc, hts⟩ := ht
      exact ⟨(h i _ hi hc).1, space, parent, children, (h i _ hi hc).2,
        hts.imp (DenotesAll.imp h ts) (And.imp_right (Inert.imp h))⟩
  | .text t, i, ht => by
      unfold Denotes at ht ⊢
      obtain ⟨hi, parent, children, hc⟩ := ht
      exact ⟨(h i _ hi hc).1, parent, children, (h i _ hi hc).2⟩
  | .comment t, i, ht => by
      unfold Denotes at ht ⊢
      obtain ⟨hi, parent, children, hc⟩ := ht
      exact ⟨(h i _ hi hc).1, parent, children, (h i _ hi hc).2⟩
  | .doctype name, i, ht => by
      unfold Denotes at ht ⊢
      obtain ⟨hi, parent, children, hc⟩ := ht
      exact ⟨(h i _ hi hc).1, parent, children, (h i _ hi hc).2⟩

theorem DenotesAll.imp
    (h : ∀ j c, j ∉ busy → s.cell? j = some c → j ∉ busy' ∧ s'.cell? j = some c) :
    ∀ (ts : List Tree) {low : Nat} {is : List Nat},
      DenotesAll s busy ts low is → DenotesAll s' busy' ts low is
  | [], _, _, hts => denotesAll_nil.mpr (denotesAll_nil.mp hts)
  | t :: ts, _, _, hts => by
      obtain ⟨i, rest, his, hlow, ht, hrest⟩ := denotesAll_cons.mp hts
      exact denotesAll_cons.mpr
        ⟨i, rest, his, hlow, Denotes.imp h t ht, DenotesAll.imp h ts hrest⟩

end

end Changes

theorem DenotesAll.bounds {s : Store} {busy : List Nat} {ts : List Tree} {low : Nat}
    {is : List Nat} (h : DenotesAll s busy ts low is) :
    ∀ i ∈ is, low < i ∧ i < s.cells.size ∧ i ∉ busy := by
  induction ts generalizing low is with
  | nil => simp [denotesAll_nil.mp h]
  | cons t ts ih =>
      obtain ⟨i, rest, rfl, hlow, ht, hrest⟩ := denotesAll_cons.mp h
      obtain ⟨hi, c, hc⟩ := ht.not_busy
      refine List.forall_mem_cons.mpr ⟨⟨hlow, lt_of_cell? hc, hi⟩, fun j hj => ?_⟩
      obtain ⟨hij, hj⟩ := ih hrest j hj
      exact ⟨Nat.lt_trans hlow hij, hj⟩

/-- Cells with greater numbers stand for trees above a greater bound. -/
theorem DenotesAll.raise {s : Store} {busy : List Nat} {ts : List Tree} {low low' : Nat}
    {is : List Nat} (h : DenotesAll s busy ts low is) (his : ∀ i ∈ is, low' < i) :
    DenotesAll s busy ts low' is := by
  cases ts with
  | nil => exact denotesAll_nil.mpr (denotesAll_nil.mp h)
  | cons t ts =>
      obtain ⟨i, rest, rfl, -, ht, hrest⟩ := denotesAll_cons.mp h
      exact denotesAll_cons.mpr ⟨i, rest, rfl, his i List.mem_cons_self, ht, hrest⟩

/-- Cells behind others. -/
theorem DenotesAll.append {s : Store} {busy : List Nat} {ts us : List Tree} {low : Nat}
    {is js : List Nat} (h : DenotesAll s busy ts low is) (h' : DenotesAll s busy us low js)
    (hlt : ∀ i ∈ is, ∀ j ∈ js, i < j) : DenotesAll s busy (ts ++ us) low (is ++ js) := by
  induction ts generalizing low is with
  | nil =>
      obtain rfl := denotesAll_nil.mp h
      exact h'
  | cons t ts ih =>
      obtain ⟨i, rest, rfl, hi, ht, hrest⟩ := denotesAll_cons.mp h
      obtain ⟨hbelow, hlt⟩ := List.forall_mem_cons.mp hlt
      exact denotesAll_cons.mpr ⟨i, rest ++ js, rfl, hi, ht, ih hrest (h'.raise hbelow) hlt⟩

/-- One cell. -/
theorem DenotesAll.singleton {s : Store} {busy : List Nat} {t : Tree} {low j : Nat}
    (ht : Denotes s busy t j) (hlow : low < j) : DenotesAll s busy [t] low [j] :=
  denotesAll_cons.mpr ⟨j, [], rfl, hlow, ht, denotesAll_nil.mpr rfl⟩

/-- The last of some cells stands for the last of the trees. -/
theorem DenotesAll.getLast? {s : Store} {busy : List Nat} {ts : List Tree} {low j : Nat}
    {is : List Nat} (h : DenotesAll s busy ts low is) (hj : is.getLast? = some j) :
    ∃ t, ts.getLast? = some t ∧ Denotes s busy t j := by
  induction ts generalizing low is with
  | nil => simp [denotesAll_nil.mp h] at hj
  | cons t ts ih =>
      obtain ⟨i, rest, rfl, -, ht, hrest⟩ := denotesAll_cons.mp h
      cases ts with
      | nil =>
          obtain rfl := denotesAll_nil.mp hrest
          obtain rfl : i = j := by simpa using hj
          exact ⟨t, rfl, ht⟩
      | cons u ts =>
          obtain ⟨k, more, rfl, -⟩ := denotesAll_cons.mp hrest
          obtain ⟨v, hv, hdenotes⟩ := ih hrest (by simpa using hj)
          exact ⟨v, by simpa using hv, hdenotes⟩

theorem trees_of_inert {s : Store} {busy is : List Nat} (h : Inert s busy is) (fuel : Nat) :
    s.trees fuel is = [] := by
  induction is generalizing fuel with
  | nil => cases fuel <;> rfl
  | cons i is ih =>
      obtain ⟨⟨-, parent, children, hc⟩, his⟩ := List.forall_mem_cons.mp h
      cases fuel with
      | zero => rfl
      | succ fuel => simp [trees, hc, ih his fuel]

/-- **Reading off what cells stand for**: there are no more cells on any way through them than
numbers above `low`. -/
theorem trees_of_denotesAll {s : Store} {busy : List Nat} {fuel : Nat} {ts : List Tree}
    {low : Nat} {is : List Nat} (h : DenotesAll s busy ts low is)
    (hfuel : s.cells.size ≤ fuel + low) : s.trees fuel is = ts := by
  induction fuel generalizing ts low is with
  | zero =>
      cases ts with
      | nil => rfl
      | cons t ts =>
          have hbounds := h.bounds
          obtain ⟨i, rest, rfl, -⟩ := denotesAll_cons.mp h
          have := hbounds i List.mem_cons_self
          omega
  | succ fuel ih =>
      cases ts with
      | nil =>
          obtain rfl := denotesAll_nil.mp h
          rfl
      | cons t ts =>
          obtain ⟨i, rest, rfl, hlow, ht, hrest⟩ := denotesAll_cons.mp h
          have hafter := ih hrest (by omega)
          cases t <;> unfold Denotes at ht
          · obtain ⟨-, _, _, _, hc, hchildren | ⟨rfl, hinert⟩⟩ := ht
            · simp [trees, hc, hafter, ih hchildren (by omega)]
            · simp [trees, hc, hafter, trees_of_inert hinert]
          all_goals
            obtain ⟨-, _, _, hc⟩ := ht
            simp [trees, hc, hafter]

/-! ## Open parts -/

/-- Cells that stand for open parts, innermost first, each a child of the next; `last` are the open
children of the innermost one, which stand between the closed ones in front of them and behind. -/
def Spine (s : Store) (busy : List Nat) : List Nat → List Frame → List Nat → Prop
  | [], [], _ => True
  | i :: ids, f :: fs, last =>
    (∃ parent closed behind, s.cell? i = some ⟨f.item, parent, closed ++ (last ++ behind)⟩ ∧
      DenotesAll s busy f.kids i closed ∧ DenotesAll s busy (f.behind.map .comment) i behind ∧
        ∀ j ∈ last, i < j ∧ (∀ k ∈ closed, k < j) ∧ ∀ k ∈ behind, j < k) ∧
      Spine s busy ids fs [i]
  | _, _, _ => False

/-- A text at the end of an open part that may still grow, as a cell and as a tree. -/
inductive Pending (s : Store) (kids : List Tree) : List Nat → List Tree → Prop
  | none (h : ∀ t, kids.getLast? ≠ some (.text t)) : Pending s kids [] []
  | text {j : Nat} {t : String} {parent : Option Nat} {children : List Nat}
      (h : s.cell? j = some ⟨.text t, parent, children⟩) : Pending s kids [j] [.text t]

/-- **What an unfinished page shows**: the open cells, innermost first, stand for open parts.
Nothing stands behind the open part of the innermost one, as it has none; and a text at the end of
it belongs to no one else, so it may grow. -/
def Shows (s : Store) (ids : List Nat) : List Frame → Prop
  | [] => False
  | f :: fs => f.behind = [] ∧ ∃ kids pending tail, f.kids = kids ++ tail ∧
      Pending s kids pending tail ∧ (pending ++ ids).Nodup ∧
        Spine s (pending ++ ids) ids (⟨f.item, kids, []⟩ :: fs) pending

theorem Spine.imp {s s' : Store} {busy busy' : List Nat} {ids : List Nat} {fs : List Frame}
    {last : List Nat} (h : Spine s busy ids fs last)
    (hclosed : ∀ j c, j ∉ busy → s.cell? j = some c → j ∉ busy' ∧ s'.cell? j = some c)
    (hopen : ∀ i ∈ ids, s'.cell? i = s.cell? i) : Spine s' busy' ids fs last := by
  induction ids generalizing fs last with
  | nil => cases fs <;> exact h
  | cons i ids ih =>
      cases fs with
      | nil => exact h
      | cons f fs =>
          obtain ⟨⟨parent, closed, behind, hc, hkids, hbehind, hlast⟩, hrest⟩ := h
          refine ⟨⟨parent, closed, behind, ?_, hkids.imp hclosed f.kids,
            hbehind.imp hclosed _, hlast⟩, ?_⟩
          · rw [hopen i List.mem_cons_self, hc]
          · exact ih hrest fun j hj => hopen j (List.mem_cons_of_mem i hj)

/-- The open cells are what the open parts are. -/
theorem Spine.items {s : Store} {busy ids : List Nat} {fs : List Frame} {last : List Nat}
    (h : Spine s busy ids fs last) :
    List.Forall₂ (fun i f => ∃ c, s.cell? i = some c ∧ c.item = f.item) ids fs := by
  induction ids generalizing fs last with
  | nil =>
      cases fs with
      | nil => exact .nil
      | cons f fs => exact h.elim
  | cons i ids ih =>
      cases fs with
      | nil => exact h.elim
      | cons f fs =>
          obtain ⟨⟨parent, closed, behind, hc, -⟩, hrest⟩ := h
          exact .cons ⟨_, hc, rfl⟩ (ih hrest)

theorem Spine.lt_size {s : Store} {busy ids : List Nat} {fs : List Frame} {last : List Nat}
    (h : Spine s busy ids fs last) : ∀ i ∈ ids, i < s.cells.size := by
  induction ids generalizing fs last with
  | nil => simp
  | cons i ids ih =>
      cases fs with
      | nil => exact h.elim
      | cons f fs =>
          obtain ⟨⟨parent, closed, behind, hc, -⟩, hrest⟩ := h
          exact List.forall_mem_cons.mpr ⟨lt_of_cell? hc, ih hrest⟩

section Shows

variable {s : Store} {p : Nat} {ids : List Nat} {f : Frame} {fs : List Frame}

theorem Shows.behind_eq (h : Shows s ids (f :: fs)) : f.behind = [] := h.1

theorem Shows.items (h : Shows s ids (f :: fs)) :
    List.Forall₂ (fun i f => ∃ c, s.cell? i = some c ∧ c.item = f.item) ids (f :: fs) := by
  obtain ⟨-, kids, pending, tail, hkids, -, -, hspine⟩ := h
  cases hspine.items with
  | cons h hrest => exact .cons h hrest

theorem Shows.lt_size (h : Shows s ids (f :: fs)) : ∀ i ∈ ids, i < s.cells.size := by
  obtain ⟨-, kids, pending, tail, -, -, -, hspine⟩ := h
  exact hspine.lt_size

/-- A text that does not grow any more is a tree among others. -/
theorem Shows.settle (h : Shows s (p :: ids) (f :: fs)) :
    (p :: ids).Nodup ∧ (∃ parent closed, s.cell? p = some ⟨f.item, parent, closed⟩ ∧
      DenotesAll s (p :: ids) f.kids p closed) ∧ Spine s (p :: ids) ids fs [p] := by
  obtain ⟨hend, kids, pending, tail, hkids, hpending, hnodup, hspine⟩ := h
  obtain ⟨⟨parent, closed, behind, hc, hclosed, hbehind, hlast⟩, hrest⟩ := hspine
  obtain rfl := denotesAll_nil.mp hbehind
  have hids : (p :: ids).Nodup := (List.nodup_append.mp hnodup).2.1
  have hkeep : ∀ j c, j ∉ pending ++ p :: ids → s.cell? j = some c →
      j ∉ p :: ids ∧ s.cell? j = some c :=
    fun j c hj hc => ⟨fun hmem => hj (List.mem_append_right _ hmem), hc⟩
  refine ⟨hids, ⟨parent, closed ++ pending, by simpa using hc, ?_⟩,
    hrest.imp hkeep fun i _ => rfl⟩
  have hsettled := hclosed.imp hkeep kids
  cases hpending with
  | none => simpa [hkids] using hsettled
  | @text j t parent' children ht =>
      rw [hkids]
      obtain ⟨hpj, hbelow, -⟩ := hlast j List.mem_cons_self
      have hj : Denotes s (p :: ids) (.text t) j := by
        rw [Denotes]
        exact ⟨(List.nodup_cons.mp hnodup).1, parent', children, ht⟩
      exact hsettled.append (.singleton hj hpj) (by simpa using hbelow)

/-- Parts that are settled show what they are if there is no text at the end. -/
theorem Shows.of_settled {item : Item} {kids : List Tree} {parent : Option Nat}
    {closed : List Nat} (hnodup : (p :: ids).Nodup)
    (hc : s.cell? p = some ⟨item, parent, closed⟩) (hclosed : DenotesAll s (p :: ids) kids p closed)
    (hend : ∀ t, kids.getLast? ≠ some (.text t)) (h : Spine s (p :: ids) ids fs [p]) :
    Shows s (p :: ids) (⟨item, kids, []⟩ :: fs) :=
  ⟨rfl, kids, [], [], by simp, .none hend, hnodup,
    ⟨parent, closed, [], by simpa using hc, hclosed, denotesAll_nil.mpr rfl, by simp⟩, h⟩

/-- A new cell is not one of those that were there, and leaves closed ones alone. -/
theorem closed_attach {c : Cell} (hp : s.cell? p = some c) (item : Item) {j : Nat} {d : Cell}
    (hj : j ∉ p :: ids) (hd : s.cell? j = some d) :
    j ∉ s.cells.size :: p :: ids ∧ (s.attach p item).cell? j = some d := by
  have hnew : j ≠ s.cells.size := Nat.ne_of_lt (lt_of_cell? hd)
  have hjp : j ≠ p := fun h => hj (h ▸ List.mem_cons_self)
  refine ⟨fun hmem => ?_, by rw [cell?_attach hp, if_neg hnew, if_neg hjp, hd]⟩
  exact (List.mem_cons.mp hmem).elim hnew hj

/-- Of the open cells, a new one changes only its parent. -/
theorem open_attach {c : Cell} (hp : s.cell? p = some c) (item : Item) (hnodup : (p :: ids).Nodup)
    (hlt : ∀ i ∈ p :: ids, i < s.cells.size) {i : Nat} (hi : i ∈ ids) :
    (s.attach p item).cell? i = s.cell? i := by
  have hnew : i ≠ s.cells.size := Nat.ne_of_lt (hlt i (List.mem_cons_of_mem p hi))
  have hip : i ≠ p := fun h => (List.nodup_cons.mp hnodup).1 (h ▸ hi)
  rw [cell?_attach hp, if_neg hnew, if_neg hip]

theorem parent_attach {c : Cell} (hp : s.cell? p = some c) (item : Item) :
    (s.attach p item).cell? p = some { c with children := c.children ++ [s.cells.size] } := by
  rw [cell?_attach hp, if_neg (Nat.ne_of_lt (lt_of_cell? hp)), if_pos rfl]

theorem new_attach {c : Cell} (hp : s.cell? p = some c) (item : Item) :
    (s.attach p item).cell? s.cells.size = some ⟨item, some p, []⟩ := by
  rw [cell?_attach hp, if_pos rfl]

/-- **Opening**: a new cell is the innermost open part. -/
theorem Shows.attach (h : Shows s (p :: ids) (f :: fs)) (item : Item) :
    Shows (s.attach p item) (s.cells.size :: p :: ids) (⟨item, [], []⟩ :: f :: fs) := by
  have hlt := h.lt_size
  have hbehind := h.behind_eq
  obtain ⟨hnodup, ⟨parent, closed, hc, hclosed⟩, hrest⟩ := h.settle
  have hkeep : ∀ j d, j ∉ p :: ids → s.cell? j = some d →
      j ∉ s.cells.size :: p :: ids ∧ (s.attach p item).cell? j = some d :=
    fun j d hj hd => closed_attach hc item hj hd
  have hnew : (s.cells.size :: p :: ids).Nodup :=
    List.nodup_cons.mpr ⟨fun hmem => Nat.lt_irrefl _ (hlt _ hmem), hnodup⟩
  refine .of_settled hnew (new_attach hc item) (denotesAll_nil.mpr rfl) (by simp)
    ⟨⟨parent, closed, [], by simpa using parent_attach hc item, hclosed.imp hkeep f.kids,
      by rw [hbehind]; exact denotesAll_nil.mpr rfl, ?_⟩,
      hrest.imp hkeep fun i hi => open_attach hc item hnodup hlt hi⟩
  intro j hj
  obtain rfl : j = s.cells.size := by simpa using hj
  exact ⟨hlt p List.mem_cons_self, fun k hk => (hclosed.bounds k hk).2.1, by simp⟩

/-- **Closing**: the innermost open part is a tree in the next one. -/
theorem Shows.close {i : Nat} {item : Item} {kids : List Tree} {behind : List String} {t : Tree}
    (h : Shows s (i :: p :: ids) (⟨item, kids, behind⟩ :: f :: fs))
    (ht : Item.tree? kids item = some t) :
    Shows s (p :: ids) (f.add t :: fs) := by
  obtain ⟨hnodup, ⟨parent, closed, hc, hclosed⟩, hnext, hrest⟩ := h.settle
  obtain ⟨parent', closed', behind', hc', hclosed', hbehind', hlast⟩ := hnext
  obtain ⟨hi, hids⟩ := List.nodup_cons.mp hnodup
  have hkeep : ∀ j c, j ∉ i :: p :: ids → s.cell? j = some c →
      j ∉ p :: ids ∧ s.cell? j = some c :=
    fun j c hj hc => ⟨fun hmem => hj (List.mem_cons_of_mem i hmem), hc⟩
  obtain ⟨hpi, hbelow, habove⟩ := hlast i List.mem_cons_self
  obtain ⟨hdenotes, hnoText⟩ : Denotes s (p :: ids) t i ∧ ∀ u, t ≠ .text u := by
    cases item with
    | element space tag as =>
        cases ht
        refine ⟨?_, by simp⟩
        rw [Denotes]
        exact ⟨hi, space, parent, closed, hc, .inl (hclosed.imp hkeep kids)⟩
    | comment u =>
        obtain ⟨-, rfl⟩ : kids.isEmpty = true ∧ .comment u = t := by simpa [Item.tree?] using ht
        refine ⟨?_, by simp⟩
        rw [Denotes]
        exact ⟨hi, parent, _, hc⟩
    | doctype name =>
        obtain ⟨-, rfl⟩ : kids.isEmpty = true ∧ .doctype name = t := by
          simpa [Item.tree?] using ht
        refine ⟨?_, by simp⟩
        rw [Denotes]
        exact ⟨hi, parent, _, hc⟩
    | page | text | inert => simp [Item.tree?] at ht
  have hbelow' : ∀ j ∈ closed', ∀ k ∈ i :: behind', j < k := fun j hj =>
    List.forall_mem_cons.mpr
      ⟨hbelow j hj, fun k hk => Nat.lt_trans (hbelow j hj) (habove k hk)⟩
  refine .of_settled hids (by simpa using hc') ((hclosed'.imp hkeep f.kids).append
    (denotesAll_cons.mpr ⟨i, behind', rfl, hpi, hdenotes, (hbehind'.imp hkeep _).raise habove⟩)
      hbelow') ?_ (hrest.imp hkeep fun j _ => rfl)
  intro u
  rcases List.eq_nil_or_concat f.behind with hnone | ⟨front, c, hsome⟩
  · simpa [hnone] using hnoText u
  · have hlast : f.kids ++ t :: f.behind.map .comment =
        (f.kids ++ t :: front.map .comment) ++ [.comment c] := by simp [hsome]
    rw [hlast, List.getLast?_concat]
    simp

theorem isText_of_cell? {j : Nat} {c : Cell} (h : s.cell? j = some c) :
    s.isText j = true ↔ ∃ t, c.item = .text t := by
  obtain ⟨item, parent, children⟩ := c
  rw [isText, h]
  cases item <;> simp

theorem Denotes.isText {busy : List Nat} {t : Tree} {j : Nat} (h : Denotes s busy t j)
    (htext : s.isText j = true) : ∃ u, t = .text u := by
  cases t with
  | text u => exact ⟨u, rfl⟩
  | element tag as ts =>
      rw [Denotes] at h
      obtain ⟨-, _, _, _, hc, -⟩ := h
      simp [isText_of_cell? hc] at htext
  | comment | doctype =>
      rw [Denotes] at h
      obtain ⟨-, _, _, hc⟩ := h
      simp [isText_of_cell? hc] at htext

/-- Without a text at the end, more text goes into a cell of its own. -/
theorem appendText_eq_attach {busy : List Nat} {kids : List Tree} {low : Nat}
    (hclosed : DenotesAll s busy kids low (s.children p))
    (hend : ∀ t, kids.getLast? ≠ some (.text t)) (text : String) :
    s.appendText p text = s.attach p (.text text) := by
  rw [Store.appendText]
  cases hj : (s.children p).getLast? with
  | none => rfl
  | some j =>
      obtain ⟨t, ht, hdenotes⟩ := hclosed.getLast? hj
      have hnot : s.isText j = false := by
        rw [Bool.eq_false_iff]
        intro htext
        obtain ⟨u, rfl⟩ := hdenotes.isText htext
        exact hend u ht
      simp only [hnot]
      rfl

theorem cell?_extendText {j : Nat} {t : String} {parent : Option Nat} {children : List Nat}
    (h : s.cell? j = some ⟨.text t, parent, children⟩) (text : String) (k : Nat) :
    (s.extendText j text).cell? k =
      if k = j then some ⟨.text (t ++ text), parent, children⟩ else s.cell? k := by
  rw [extendText, cell?_modify, h]
  rfl

/-- **More text**: it goes into the text at the end, or into a new one. -/
theorem Shows.appendText (h : Shows s (p :: ids) (f :: fs)) (text : String) :
    Shows (s.appendText p text) (p :: ids) (⟨f.item, addText f.kids text, []⟩ :: fs) := by
  obtain ⟨-, kids, pending, tail, hkids, hpending, hnodup, hspine⟩ := h
  have hlt := hspine.lt_size
  have hwhole := hspine
  obtain ⟨⟨parent, closed, behind, hc, hclosed, hbehind, hlast⟩, hrest⟩ := hspine
  obtain rfl := denotesAll_nil.mp hbehind
  have hchildren : s.children p = closed ++ pending := by simp [children, hc]
  cases hpending with
  | none hend =>
      have hall : DenotesAll s (p :: ids) kids p (s.children p) := by
        simpa [hchildren] using hclosed
      rw [appendText_eq_attach hall hend text, hkids, List.append_nil, addText_of_no_text hend]
      refine ⟨rfl, kids, [s.cells.size], [.text text], rfl, .text (new_attach hc _), ?_,
        ⟨parent, closed, [], by simpa using parent_attach hc _, ?_, denotesAll_nil.mpr rfl, ?_⟩, ?_⟩
      · exact List.nodup_cons.mpr ⟨fun hmem => Nat.lt_irrefl _ (hlt _ hmem), hnodup⟩
      · exact hclosed.imp (fun j d hj hd => closed_attach hc _ hj hd) kids
      · intro j hj
        obtain rfl : j = s.cells.size := by simpa using hj
        exact ⟨hlt p List.mem_cons_self, fun k hk => (hclosed.bounds k hk).2.1, by simp⟩
      · exact hrest.imp (fun j d hj hd => closed_attach hc _ hj hd)
          fun i hi => open_attach hc _ hnodup hlt hi
  | @text j t parent' children' ht =>
      have hgrow : s.appendText p text = s.extendText j text := by
        rw [Store.appendText, hchildren, List.getLast?_concat]
        simp only [(isText_of_cell? ht).mpr ⟨t, rfl⟩, if_true]
      obtain ⟨hj, -⟩ := List.nodup_cons.mp hnodup
      have hlonger := (cell?_extendText ht text j).trans (if_pos rfl)
      rw [hgrow, hkids, addText_concat]
      refine ⟨rfl, kids, [j], [.text (t ++ text)], rfl, .text hlonger, hnodup,
        hwhole.imp (fun k c hk hkc => ⟨hk, ?_⟩) fun i hi => ?_⟩
      · have hne : k ≠ j := fun h => hk (h ▸ List.mem_cons_self)
        rw [cell?_extendText ht, if_neg hne, hkc]
      · have hne : i ≠ j := fun h => hj (h ▸ hi)
        rw [cell?_extendText ht, if_neg hne]

/-! ### Comments behind an open part -/

theorem keep_attach {busy : List Nat} {q : Nat} {d : Cell} (hq : s.cell? q = some d)
    (hbusy : q ∈ busy) (item : Item) {j : Nat} {c : Cell}
    (hj : j ∉ busy) (hc : s.cell? j = some c) :
    j ∉ busy ∧ (s.attach q item).cell? j = some c := by
  have hne : j ≠ s.cells.size := Nat.ne_of_lt (lt_of_cell? hc)
  have hjq : j ≠ q := fun h => hj (h ▸ hbusy)
  exact ⟨hj, by rw [cell?_attach hq, if_neg hne, if_neg hjq, hc]⟩

/-- A comment at the end of a part that has an open part in it. -/
theorem Spine.attachBehind {busy : List Nat} {q : Nat} {g : Frame} {pre : List Nat}
    {front : List Frame} {last : List Nat}
    (h : Spine s busy (pre ++ q :: ids) (front ++ g :: fs) last)
    (hlength : pre.length = front.length) (hnodup : (pre ++ q :: ids).Nodup)
    (hlast : ∀ j ∈ last, j < s.cells.size) (hbusy : q ∈ busy) (hnew : s.cells.size ∉ busy)
    (text : String) :
    Spine (s.attach q (.comment text)) busy (pre ++ q :: ids)
      (front ++ { g with behind := g.behind ++ [text] } :: fs) last := by
  have hlt := h.lt_size
  obtain ⟨d, hq⟩ : ∃ d, s.cell? q = some d :=
    ⟨_, Array.getElem?_eq_getElem (hlt q (by simp))⟩
  have hkeep := fun j c hj hc => keep_attach hq hbusy (.comment text) (j := j) (c := c) hj hc
  induction pre generalizing front last with
  | nil =>
      obtain rfl : front = [] := List.length_eq_zero_iff.mp hlength.symm
      obtain ⟨⟨parent, closed, behind, hc, hclosed, hbehind, hbetween⟩, hrest⟩ := h
      have hnewCell : Denotes (s.attach q (.comment text)) busy (.comment text) s.cells.size := by
        rw [Denotes]
        exact ⟨hnew, _, _, new_attach hc _⟩
      refine ⟨⟨parent, closed, behind ++ [s.cells.size], by simpa using parent_attach hc _,
        hclosed.imp hkeep g.kids, ?_, fun j hj => ?_⟩,
        hrest.imp hkeep fun i hi => open_attach hc _ hnodup hlt hi⟩
      · rw [List.map_append]
        exact (hbehind.imp hkeep _).append (.singleton hnewCell (hlt q List.mem_cons_self))
          (by simpa using fun k hk => (hbehind.bounds k hk).2.1)
      · obtain ⟨hqj, hbelow, habove⟩ := hbetween j hj
        refine ⟨hqj, hbelow, fun k hk => ?_⟩
        rcases List.mem_append.mp hk with hk | hk
        · exact habove k hk
        · exact List.mem_singleton.mp hk ▸ hlast j hj
  | cons i pre ih =>
      obtain ⟨f, front, rfl⟩ : ∃ f fs, front = f :: fs :=
        List.exists_cons_of_length_eq_add_one hlength.symm
      obtain ⟨⟨parent, closed, behind, hc, hclosed, hbehind, hbetween⟩, hrest⟩ := h
      obtain ⟨hi, hnodup⟩ := List.nodup_cons.mp hnodup
      have hiq : i ≠ q := fun heq => hi (by simp [heq])
      have hsize : i ≠ s.cells.size := Nat.ne_of_lt (lt_of_cell? hc)
      refine ⟨⟨parent, closed, behind, ?_, hclosed.imp hkeep f.kids, hbehind.imp hkeep _,
        hbetween⟩, ih hrest (by simpa using hlength) hnodup (by simpa using lt_of_cell? hc)
          hrest.lt_size⟩
      rw [cell?_attach hq, if_neg hsize, if_neg hiq, hc]

/-- **A comment behind an open part.** -/
theorem Shows.attachBehind {q : Nat} {g : Frame} {pre : List Nat} {front : List Frame}
    (h : Shows s (p :: (pre ++ q :: ids)) (f :: (front ++ g :: fs)))
    (hlength : pre.length = front.length) (text : String) :
    Shows (s.attach q (.comment text)) (p :: (pre ++ q :: ids))
      (f :: (front ++ { g with behind := g.behind ++ [text] } :: fs)) := by
  obtain ⟨hend, kids, pending, tail, hkids, hpending, hnodup, hspine⟩ := h
  have hlt := hspine.lt_size
  obtain ⟨-, hids, hapart⟩ := List.nodup_append.mp hnodup
  have hqmem : q ∈ p :: (pre ++ q :: ids) := by simp
  obtain ⟨d, hq⟩ : ∃ d, s.cell? q = some d := ⟨_, Array.getElem?_eq_getElem (hlt q hqmem)⟩
  have hpendingLt : ∀ j ∈ pending, j < s.cells.size := by
    intro j hj
    cases hpending with
    | none => simp at hj
    | text hc => exact List.mem_singleton.mp hj ▸ lt_of_cell? hc
  have hnew : s.cells.size ∉ pending ++ p :: (pre ++ q :: ids) := fun hmem =>
    Nat.lt_irrefl _ ((List.mem_append.mp hmem).elim (hpendingLt _) (hlt _))
  refine ⟨hend, kids, pending, tail, hkids, ?_, hnodup, ?_⟩
  · cases hpending with
    | none hno => exact .none hno
    | @text j t parent children hc =>
        have hjq : j ≠ q := hapart j List.mem_cons_self q hqmem
        have hkept : (s.attach q (.comment text)).cell? j = some ⟨.text t, parent, children⟩ := by
          rw [cell?_attach hq, if_neg (Nat.ne_of_lt (lt_of_cell? hc)), if_neg hjq, hc]
        exact .text hkept
  · have hspine : Spine s (pending ++ p :: (pre ++ q :: ids)) ((p :: pre) ++ q :: ids)
        ((⟨f.item, kids, []⟩ :: front) ++ g :: fs) pending := hspine
    exact hspine.attachBehind (by simpa using hlength) hids hpendingLt
      (List.mem_append_right _ hqmem) hnew text

/-! ### Templates -/

/-- **An element that holds nothing but what is kept apart.** -/
theorem Shows.attachHollow (h : Shows s (p :: ids) (f :: fs)) (space : Space) (tag : String)
    (as : List Attribute) :
    Shows (s.attachHollow p (.element space tag as)) (p :: ids)
      (f.add (.element tag as []) :: fs) := by
  have hlt := h.lt_size
  have hbehind := h.behind_eq
  obtain ⟨hnodup, ⟨parent, closed, hc, hclosed⟩, hrest⟩ := h.settle
  have hp := hlt p List.mem_cons_self
  have hcell := cell?_attachHollow hc (.element space tag as)
  have hkeep : ∀ j d, j ∉ p :: ids → s.cell? j = some d →
      j ∉ p :: ids ∧ (s.attachHollow p (.element space tag as)).cell? j = some d := by
    intro j d hj hd
    have hlt := lt_of_cell? hd
    have hjp : j ≠ p := fun h => hj (h ▸ List.mem_cons_self)
    exact ⟨hj, by rw [hcell, if_neg (by omega), if_neg hjp, if_neg (by omega), hd]⟩
  have hinert : Inert (s.attachHollow p (.element space tag as)) (p :: ids)
      [s.cells.size + 1] := by
    intro j hj
    obtain rfl : j = s.cells.size + 1 := by simpa using hj
    refine ⟨fun hmem => absurd (hlt _ hmem) (by omega), some s.cells.size, [], ?_⟩
    rw [hcell, if_neg (by omega), if_neg (by omega), if_pos rfl]
  have helement : Denotes (s.attachHollow p (.element space tag as)) (p :: ids)
      (.element tag as []) s.cells.size := by
    rw [Denotes]
    exact ⟨fun hmem => Nat.lt_irrefl _ (hlt _ hmem), space, some p, [s.cells.size + 1],
      by rw [hcell, if_pos rfl], .inr ⟨rfl, hinert⟩⟩
  have hgrown : (s.attachHollow p (.element space tag as)).cell? p =
      some ⟨f.item, parent, closed ++ [s.cells.size]⟩ := by
    rw [hcell, if_neg (by omega), if_pos rfl]
  rw [Frame.add, hbehind]
  refine .of_settled hnodup hgrown ((hclosed.imp hkeep f.kids).append (.singleton helement hp)
    (by simpa using fun k hk => (hclosed.bounds k hk).2.1)) (by simp)
    (hrest.imp hkeep fun i hi => ?_)
  have hi' := hlt i (List.mem_cons_of_mem p hi)
  have hip : i ≠ p := fun h => (List.nodup_cons.mp hnodup).1 (h ▸ hi)
  rw [hcell, if_neg (by omega), if_neg hip, if_neg (by omega)]

/-- A page that is about to be read shows nothing. -/
theorem shows_empty : Shows empty [page] [⟨.page, [], []⟩] :=
  .of_settled (by simp) rfl (denotesAll_nil.mpr rfl) (by simp) trivial

/-- **What a finished page holds.** -/
theorem Shows.content (h : Shows s [page] [f]) : s.content = f.kids := by
  obtain ⟨-, ⟨parent, closed, hc, hclosed⟩, -⟩ := h.settle
  have hchildren : s.children page = closed := by simp [children, hc]
  rw [Store.content, hchildren]
  exact trees_of_denotesAll hclosed (Nat.le_succ _)

end Shows

end Store

end Expectation.Html
