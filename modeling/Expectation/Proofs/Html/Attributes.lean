import Expectation.Html.Construction
import Expectation.Proofs.Html.Markup
import Expectation.Proofs.Json.Members

/-!
# Attributes that are written and read again

An element is written with its attributes by name, whatever vocabularies they belong to.  What is
read again belongs to the vocabularies that the names ask for, and these have an order of their own;
but it has the same names and values, so it is written in the same way.

## Main results

* `plain`: the attributes of an element as they are written.
* `Settled`: attributes that keep their names when they are read.
* `plain_placed`: these are written again as they were.
-/

namespace Expectation.Html

/-- Attributes without a vocabulary in their order. -/
def Sorted (as : List Attribute) : Prop :=
  (∀ a ∈ as, a.space = none) ∧ as.Pairwise fun a b => a.name < b.name

theorem Sorted.nodup {as : List Attribute} (h : Sorted as) : (as.map Attribute.name).Nodup :=
  List.pairwise_map.mpr (h.2.imp String.ne_of_lt)

namespace Attribute

/-! ## As they are written -/

/-- An attribute with nothing but its name and its value. -/
def pair (a : Attribute) : String × String := (a.name, a.value)

/-- The attributes of an element as they are written: by name alone. -/
def plain (as : List Attribute) : List Attribute :=
  (Json.ofPairs (as.map pair)).map fun (name, value) => ⟨none, name, value⟩

theorem sorted_plain (as : List Attribute) : Sorted (plain as) := by
  constructor
  · intro a ha
    obtain ⟨p, -, rfl⟩ := List.mem_map.mp ha
    rfl
  · exact List.pairwise_map.mpr (Json.ascending_ofPairs (as.map pair))

/-- Sorted attributes are told by their names and values. -/
theorem eq_plain {as bs : List Attribute} (has : Sorted as)
    (hmem : ∀ p, p ∈ bs.map pair ↔ p ∈ as.map pair) : plain bs = as := by
  have hpairs : Json.ofPairs (bs.map pair) = as.map pair :=
    Json.ofPairs_eq_of_mem_iff (List.pairwise_map.mpr has.2) hmem
  rw [plain, hpairs, List.map_map]
  refine (List.map_congr_left fun a ha => ?_).trans (List.map_id as)
  obtain ⟨space, name, value⟩ := a
  obtain rfl : space = none := has.1 _ ha
  rfl

theorem plain_of_sorted {as : List Attribute} (has : Sorted as) : plain as = as :=
  eq_plain has fun _ => Iff.rfl

/-! ## As they are read -/

/-- An attribute of an element of a vocabulary as it is read. -/
def readIn (space : Space) (a : Attribute) : Attribute :=
  match space with
  | .html => ⟨none, readName a.name, a.value⟩
  | .svg => Builder.foreignAttribute .svg (readName a.name) a.value
  | .math => Builder.foreignAttribute .math (readName a.name) a.value

@[simp] theorem value_readIn (space : Space) (a : Attribute) :
    (a.readIn space).value = a.value := by
  cases space with
  | html => rfl
  | svg | math =>
      simp only [readIn, Builder.foreignAttribute]
      split <;> rfl

/-- What an attribute is called depends on what is read of its name. -/
theorem name_readIn_congr (space : Space) {a b : Attribute}
    (h : readName a.name = readName b.name) : (a.readIn space).name = (b.readIn space).name := by
  have hname : ∀ space name v w, (Builder.foreignAttribute space name v).name =
      (Builder.foreignAttribute space name w).name := by
    intro space name v w
    rw [Builder.foreignAttribute, Builder.foreignAttribute]
    cases Builder.spaceAttributes.find? (·.1 == Builder.attributeName space name) <;> rfl
  cases space with
  | html => exact h
  | svg | math =>
      rw [readIn, readIn, h]
      exact hname _ _ _ _

/-- The attributes of an element of a vocabulary as they are read. -/
def placed (space : Space) (as : List Attribute) : List Attribute :=
  addMissing [] (as.map (readIn space))

/-- An attribute with a new name is put among the others. -/
theorem perm_insert {a : Attribute} {as : List Attribute} (hnew : ∀ b ∈ as, b.name ≠ a.name) :
    (insert a as).Perm (a :: as) := by
  induction as with
  | nil => exact .refl _
  | cons b as ih =>
      obtain ⟨hb, hnew⟩ := List.forall_mem_cons.mp hnew
      rw [insert]
      split
      · exact .refl _
      · rw [if_neg (by simp [Ne.symm hb])]
        exact ((ih hnew).cons b).trans (.swap a b as)

/-- So are several with different names. -/
theorem perm_addMissing {as new : List Attribute} (hnew : ((as ++ new).map name).Nodup) :
    (addMissing as new).Perm (as ++ new) := by
  induction new generalizing as with
  | nil => simp [addMissing]
  | cons a new ih =>
      have hmiddle : (as ++ a :: new).Perm (a :: (as ++ new)) := List.perm_middle
      have hnames : (a.name :: (as ++ new).map name).Nodup := (hmiddle.map name).nodup_iff.mp hnew
      obtain ⟨hfresh, -⟩ := List.nodup_cons.mp hnames
      have hinsert : (insert a as).Perm (a :: as) := perm_insert fun b hb heq =>
        hfresh (heq ▸ List.mem_map_of_mem (List.mem_append_left new hb))
      have hwhole : (insert a as ++ new).Perm (a :: (as ++ new)) := hinsert.append_right new
      have hrest := ih ((hwhole.map name).nodup_iff.mpr hnames)
      exact hrest.trans (hwhole.trans hmiddle.symm)

theorem insert_last {a : Attribute} (ha : a.space = none) {as : List Attribute}
    (h : ∀ b ∈ as, b.space = none ∧ b.name < a.name) : insert a as = as ++ [a] := by
  induction as with
  | nil => rfl
  | cons b as ih =>
      obtain ⟨hb, hlt⟩ := h b List.mem_cons_self
      have hbefore : a.before b = false := by
        simp [before, ha, hb, String.lt_asymm hlt]
      have hne : a.name ≠ b.name := fun heq => String.lt_irrefl _ (heq ▸ hlt)
      simp [insert, hbefore, hne, ih fun c hc => h c (List.mem_cons_of_mem b hc)]

/-- Attributes in their order stay in it. -/
theorem addMissing_nil {as : List Attribute} (h : Sorted as) : addMissing [] as = as := by
  have hfold : ∀ seen : List Attribute, (seen ++ as).Pairwise (fun a b => a.name < b.name) →
      (∀ a ∈ seen, a.space = none) → addMissing seen as = seen ++ as := by
    obtain ⟨hspace, -⟩ := h
    induction as with
    | nil => simp [addMissing]
    | cons a as ih =>
        intro seen hsorted hseen
        have ha := hspace a List.mem_cons_self
        have hbelow : ∀ b ∈ seen, b.space = none ∧ b.name < a.name := fun b hb =>
          ⟨hseen b hb, (List.pairwise_append.mp hsorted).2.2 b hb a List.mem_cons_self⟩
        have hrest := ih (fun b hb => hspace b (List.mem_cons_of_mem a hb)) (seen ++ [a])
          (by simpa using hsorted) (by simpa [or_imp, forall_and] using ⟨hseen, ha⟩)
        rw [addMissing, List.foldl_cons, insert_last ha hbelow]
        simpa [addMissing] using hrest
  exact hfold [] h.2 (by simp)

end Attribute

open Attribute

/-! ## What is read as it is written -/

/-- **Attributes of an element of a vocabulary that keep their names** when they are written and
read again. -/
structure Settled (space : Space) (as : List Attribute) : Prop where
  sorted : Sorted as
  isLegible : ∀ a ∈ as, a.isLegible = true
  name_eq : ∀ a ∈ as, (a.readIn space).name = a.name

namespace Settled

variable {space : Space} {as : List Attribute}

theorem legible (h : Settled space as) : Legible as := by
  refine ⟨h.isLegible, List.pairwise_map.mpr ?_⟩
  refine List.Pairwise.imp_of_mem (fun {a b} ha hb hlt heq => ?_) h.sorted.2
  have hname : a.name = b.name := by
    rw [← h.name_eq a ha, ← h.name_eq b hb, name_readIn_congr space heq]
  exact String.ne_of_lt hlt hname

/-- In the page's own vocabulary they are read as they are. -/
theorem map_readIn (h : Settled .html as) : as.map (readIn .html) = as := by
  refine (List.map_congr_left fun a ha => ?_).trans (List.map_id as)
  obtain ⟨space, name, value⟩ := a
  obtain rfl : space = none := h.sorted.1 ⟨space, name, value⟩ ha
  have hname : readName name = name := h.name_eq ⟨none, name, value⟩ ha
  rw [readIn, hname]
  rfl

theorem placed_eq (h : Settled .html as) : placed .html as = as := by
  rw [placed, h.map_readIn, addMissing_nil h.sorted]

theorem plainAttributes_eq (h : Settled .html as) (tag : String) :
    Builder.plainAttributes (readTag tag as) = as := by
  rw [Builder.plainAttributes, readTag, readValues, List.map_map]
  exact (List.map_congr_left fun a _ => rfl).trans h.map_readIn

theorem map_pair_readIn (h : Settled space as) :
    (as.map (readIn space)).map pair = as.map pair := by
  rw [List.map_map]
  refine List.map_congr_left fun a ha => ?_
  simp [pair, h.name_eq a ha]

/-- **They are written again as they were.** -/
theorem plain_placed (h : Settled space as) : plain (placed space as) = as := by
  have hnames : (as.map (readIn space)).map name = as.map name := by
    rw [List.map_map]
    exact List.map_congr_left h.name_eq
  have hperm : (placed space as).Perm (as.map (readIn space)) := by
    refine perm_addMissing ?_
    rw [List.nil_append, hnames]
    exact h.sorted.nodup
  refine eq_plain h.sorted fun p => ?_
  rw [← h.map_pair_readIn]
  exact (hperm.map pair).mem_iff

end Settled

/-- What tags of drawings and formulas are read with. -/
theorem map_foreignAttribute {space : Space} (hspace : space ≠ .html) (as : List Attribute) :
    (readValues as).map (fun p => Builder.foreignAttribute space p.1 p.2) =
      as.map (readIn space) := by
  rw [readValues, List.map_map]
  refine List.map_congr_left fun a _ => ?_
  rw [Function.comp_apply]
  cases space with
  | html => exact absurd rfl hspace
  | svg | math => rw [readIn]

/-- Whether the attributes of an element are read as they are written. -/
def settledAttributes (space : Space) (as : List Attribute) : Bool :=
  (plain as).all fun a => a.isLegible && (a.readIn space).name == a.name

theorem settled_plain {space : Space} {as : List Attribute}
    (h : settledAttributes space as = true) : Settled space (plain as) := by
  simp only [settledAttributes, List.all_eq_true, Bool.and_eq_true, beq_iff_eq] at h
  exact ⟨sorted_plain as, fun a ha => (h a ha).1, fun a ha => (h a ha).2⟩

end Expectation.Html
