import Expectation.Proofs.Html.SelfAdmission
import Expectation.Proofs.Json.Likeness

/-!
# Literal pages that are alike

When the order of no children counts, the children of two elements are paired
first fit.  For literal pages that is enough to find every match: `Alike` says
when two of them match, children up to a permutation, and it is an equivalence,
so it cannot matter which of two possible partners a child takes.

Only the parts that count have a say.  Elements that are left out never get as
far as a comparison, since they are no significant children; a page that is left
out as a whole matches everything, and so the results are about pages that are
not.  The paths that nodes carry have no say either: without options for the
attributes of single elements they appear in reports only.

## Main results

* `Alike.symm`, `Alike.trans`: likeness is symmetric and transitive.
* `compare_eq_nil_iff_alike`: the comparison of literal pages decides likeness.
* `alike_unplaced`: likeness does not look at paths.
* `compare_literal_anyOrder`: comparing literal pages in any order is an
  equivalence that compares children up to order.
-/

namespace Expectation.Html

/-! ## Options without order and without places -/

/-- The order of no children counts, and no attribute is left out on a single
element only. -/
structure Options.AnyOrder (o : Options) : Prop where
  ignoreChildOrder : o.ignoreChildOrder = true
  ignoredAttributePaths : o.ignoredAttributePaths = []

/-- Whether attributes with a name are left out on all elements. -/
def Options.ignoresName (o : Options) (name : String) : Bool :=
  o.ignoredAttributes.any (Text.sameName · name)

namespace Options.AnyOrder

variable {o : Options}

theorem unordered (ho : o.AnyOrder) (path : String) : o.unordered path = true := by
  simp [Options.unordered, ho.ignoreChildOrder]

theorem ignoresAttribute (ho : o.AnyOrder) (path name : String) :
    o.ignoresAttribute path name = o.ignoresName name := by
  simp [Options.ignoresAttribute, Options.ignoresName, ho.ignoredAttributePaths]

end Options.AnyOrder

/-- Whether a node is left out of the comparison as a whole. -/
def Node.isLeftOut (o : Options) : Node → Bool
  | .element _ tag _ _ => o.ignoresElement tag
  | _ => false

theorem Node.isLeftOut_of_significant {o : Options} {n : Node}
    (h : n.significant o = true) : n.isLeftOut o = false := by
  cases n with
  | element path tag attributes children =>
      simpa [Node.significant, Node.isLeftOut] using h
  | _ => rfl

/-- The children of an element that take part in a comparison. -/
def significantChildren (o : Options) (children : List Node) : List Node :=
  children.filter (Node.significant o)

theorem mem_significantChildren {o : Options} {children : List Node} {c : Node} :
    c ∈ significantChildren o children ↔ c ∈ children ∧ c.significant o = true :=
  List.mem_filter

/-- The attributes of two elements are the same but for names that are left out. -/
def SameAttributes (o : Options) (attributes others : List (String × Value)) : Prop :=
  ∀ name, o.ignoresName name = false →
    Json.lookup name attributes = Json.lookup name others

namespace SameAttributes

variable {o : Options} {as bs cs : List (String × Value)}

theorem symm (h : SameAttributes o as bs) : SameAttributes o bs as :=
  fun name hname => (h name hname).symm

theorem trans (hab : SameAttributes o as bs) (hbc : SameAttributes o bs cs) :
    SameAttributes o as cs :=
  fun name hname => (hab name hname).trans (hbc name hname)

end SameAttributes

/-! ## Likeness -/

/-- Two literal pages are alike. -/
inductive Alike (o : Options) : Node → Node → Prop where
  | text {path other s t : String} (h : comparedText o s = comparedText o t) :
      Alike o (.text path (.literal s)) (.text other (.literal t))
  | comment {path other s t : String} (h : o.ignoreComments = true ∨ s = t) :
      Alike o (.comment path s) (.comment other t)
  | doctype {path other s t : String} (h : Text.sameName s t = true) :
      Alike o (.doctype path s) (.doctype other t)
  /-- Elements are alike child by child, once the significant children of the
  second are put in order. -/
  | element {path other tag otherTag : String} {attributes others : List (String × Value)}
      {children otherChildren ordered : List Node} (htag : Text.sameName tag otherTag = true)
      (hattributes : SameAttributes o attributes others)
      (horder : ordered.Perm (significantChildren o otherChildren))
      (hlength : (significantChildren o children).length = ordered.length)
      (h : ∀ (i : Nat) c d, (significantChildren o children)[i]? = some c →
        ordered[i]? = some d → Alike o c d) :
      Alike o (.element path tag attributes children)
        (.element other otherTag others otherChildren)

namespace Alike

variable {o : Options} {x y z : Node}

/-- Elements with the same tag and attributes are alike exactly if their
significant children are in some order. -/
theorem elements_iff {path other tag otherTag : String}
    {attributes others : List (String × Value)} {children otherChildren : List Node} :
    Alike o (.element path tag attributes children)
        (.element other otherTag others otherChildren) ↔
      Text.sameName tag otherTag = true ∧ SameAttributes o attributes others ∧
        ∃ ordered, ordered.Perm (significantChildren o otherChildren) ∧
          List.Forall₂ (Alike o) (significantChildren o children) ordered := by
  constructor
  · intro h
    cases h with
    | @element _ _ _ _ _ _ _ _ ordered htag hattributes horder hlength h =>
        exact ⟨htag, hattributes, ordered, horder,
          Json.forall₂_iff_getElem?.mpr ⟨hlength, h⟩⟩
  · rintro ⟨htag, hattributes, ordered, horder, h⟩
    obtain ⟨hlength, hchildren⟩ := Json.forall₂_iff_getElem?.mp h
    exact .element htag hattributes horder hlength hchildren

/-- **Likeness is symmetric.** -/
theorem symm (h : Alike o x y) : Alike o y x := by
  induction h with
  | text h => exact .text h.symm
  | comment h => exact .comment (h.imp_right Eq.symm)
  | doctype h => exact .doctype (Text.sameName_symm h)
  | @element path other tag otherTag attributes others children otherChildren ordered
      htag hattributes horder hlength _ ih =>
      have hback : List.Forall₂ (Alike o) ordered (significantChildren o children) :=
        Json.forall₂_iff_getElem?.mpr ⟨hlength.symm, fun i d c hd hc => ih i c d hc hd⟩
      -- undoing the order of the second children puts the first ones in order
      obtain ⟨reordered, hmatch, hperm⟩ := List.perm_comp_forall₂ horder.symm hback
      exact elements_iff.mpr
        ⟨Text.sameName_symm htag, hattributes.symm, reordered, hperm, hmatch⟩

/-- **Likeness is transitive.** -/
theorem trans (hxy : Alike o x y) (hyz : Alike o y z) : Alike o x z := by
  induction hxy generalizing z with
  | text h =>
      cases hyz with
      | text h' => exact .text (h.trans h')
  | comment h =>
      cases hyz with
      | comment h' =>
          rcases h with h | rfl
          · exact .comment (.inl h)
          · exact .comment h'
  | doctype h =>
      cases hyz with
      | doctype h' => exact .doctype (Text.sameName_trans h h')
  | @element path other tag otherTag attributes others children otherChildren ordered
      htag hattributes horder hlength _ ih =>
      cases z with
      | element third thirdTag thirds thirdChildren =>
          obtain ⟨htag', hattributes', ordered', horder', hmatch'⟩ := elements_iff.mp hyz
          -- the third children follow the order that the second ones had to take
          obtain ⟨reordered, hmatch, hperm⟩ := List.perm_comp_forall₂ horder hmatch'
          obtain ⟨hlength', hpairs⟩ := Json.forall₂_iff_getElem?.mp hmatch
          refine .element (Text.sameName_trans htag htag') (hattributes.trans hattributes')
            (hperm.trans horder') (hlength.trans hlength') ?_
          intro i c e hc he
          have hi : i < ordered.length := by
            rw [hlength']
            exact (List.getElem?_eq_some_iff.mp he).1
          have hd : ordered[i]? = some ordered[i] := List.getElem?_eq_getElem hi
          exact ih i c ordered[i] hc hd (hpairs i ordered[i] e hd he)
      | _ => cases hyz

end Alike

/-! ## The comparison decides likeness -/

/-- The children that count are compared one by one. -/
theorem childTrials_eq_map (o : Options) (children : List Node) :
    childTrials o children = (significantChildren o children).map (compare o) := by
  induction children with
  | nil => rfl
  | cons c cs ih =>
      by_cases hcounts : c.significant o = true
      · simp [childTrials, significantChildren, hcounts, ih]
      · simp [childTrials, significantChildren, hcounts, ih]

/-- Children are all paired exactly if there are as many on both sides and first
fit leaves nobody without a match. -/
theorem compareUnordered_children_eq_nil_iff (o : Options) (path : String)
    (children actuals : List Node) :
    compareUnordered path (childTrials o children) (significantChildren o children) actuals =
        [] ↔
      (significantChildren o children).length = actuals.length ∧
        Pairing.unmatched (fun trial n => (trial n).isEmpty)
          ((significantChildren o children).map (compare o)) actuals = [] := by
  rw [childTrials_eq_map]
  unfold compareUnordered
  by_cases hlength : (significantChildren o children).length = actuals.length <;>
    simp [hlength]

/-- The trials of some children succeed in the order given if none of the pairs
has a difference. -/
theorem forall₂_trials_iff (o : Options) (children actuals : List Node) :
    List.Forall₂ (fun trial n => (trial n).isEmpty = true) (children.map (compare o)) actuals ↔
      List.Forall₂ (fun c d => compare o c d = []) children actuals := by
  rw [List.forall₂_map_left_iff]
  simp only [List.isEmpty_iff]

section Comparison

variable {o : Options}

/-- **First fit finds likeness.**  Children that are compared by likeness are all
paired exactly if they are alike in some order. -/
theorem compareUnordered_eq_nil_iff_alike {path : String} {children actuals : List Node}
    (hchildren : ∀ c ∈ significantChildren o children, ∀ d ∈ actuals,
      (compare o c d = [] ↔ Alike o c d)) :
    compareUnordered path (childTrials o children) (significantChildren o children) actuals =
        [] ↔
      ∃ ordered, ordered.Perm actuals ∧
        List.Forall₂ (Alike o) (significantChildren o children) ordered := by
  rw [compareUnordered_children_eq_nil_iff]
  constructor
  · rintro ⟨hlength, hpaired⟩
    obtain ⟨ordered, hperm, hmatch⟩ :=
      Pairing.exists_perm_of_unmatched_eq_nil (by simpa using hlength) hpaired
    rw [forall₂_trials_iff, Json.forall₂_iff_getElem?] at hmatch
    refine ⟨ordered, hperm, Json.forall₂_iff_getElem?.mpr ⟨hmatch.1, ?_⟩⟩
    intro i c d hc hd
    exact (hchildren c (List.mem_of_getElem? hc) d
      (hperm.subset (List.mem_of_getElem? hd))).mp (hmatch.2 i c d hc hd)
  · rintro ⟨ordered, hperm, hmatch⟩
    refine ⟨hmatch.length_eq.trans hperm.length_eq, ?_⟩
    -- likeness is an equivalence, so it cannot matter who takes which partner
    have hzigzag : Pairing.Zigzag (fun trial n => (trial n).isEmpty)
        ((significantChildren o children).map (compare o)) actuals := by
      intro t ht t' ht' d hd d' hd' h₁ h₂ h₃
      obtain ⟨c, hc, rfl⟩ := List.mem_map.mp ht
      obtain ⟨c', hc', rfl⟩ := List.mem_map.mp ht'
      have hcd := (hchildren c hc d hd).mp (List.isEmpty_iff.mp h₁)
      have hcd' := (hchildren c' hc' d hd).mp (List.isEmpty_iff.mp h₂)
      have hother := (hchildren c' hc' d' hd').mp (List.isEmpty_iff.mp h₃)
      have halike : Alike o c d' := hcd.trans (hcd'.symm.trans hother)
      exact List.isEmpty_iff.mpr ((hchildren c hc d' hd').mpr halike)
    obtain ⟨hlength, hpairs⟩ := Json.forall₂_iff_getElem?.mp hmatch
    refine Pairing.unmatched_eq_nil_of_perm hzigzag hperm ((forall₂_trials_iff ..).mpr
      (Json.forall₂_iff_getElem?.mpr ⟨hlength, ?_⟩))
    intro i c d hc hd
    exact (hchildren c (List.mem_of_getElem? hc) d
      (hperm.subset (List.mem_of_getElem? hd))).mpr (hpairs i c d hc hd)

/-- Literal attributes have nothing to report on either side exactly if they are
the same. -/
theorem attributes_eq_nil_iff_same (ho : o.AnyOrder) (path : String)
    {attributes others : List (String × Value)} (hasc : Json.Ascending attributes)
    (hasc' : Json.Ascending others)
    (hvalues : ∀ name v, (name, v) ∈ attributes → ∃ s, v = .literal s)
    (hvalues' : ∀ name v, (name, v) ∈ others → ∃ s, v = .literal s) :
    (compareAttributes o path others attributes = [] ∧
        addedAttributes o path attributes others = []) ↔
      SameAttributes o attributes others := by
  rw [compareAttributes_eq_nil_iff, addedAttributes_eq_nil_iff]
  simp only [ho.ignoresAttribute]
  constructor
  · rintro ⟨hexpected, hadded⟩ name hname
    cases hv : Json.lookup name attributes with
    | none =>
        cases hw : Json.lookup name others with
        | none => rfl
        | some w =>
            obtain ⟨v, hmem⟩ := hadded name w (Json.mem_of_lookup_eq_some hw) hname
            have hsome := Json.lookup_eq_some_of_mem hasc hmem
            exact absurd (hv.symm.trans hsome) (by simp)
    | some v =>
        have hmem := Json.mem_of_lookup_eq_some hv
        obtain ⟨s, rfl⟩ := hvalues name v hmem
        obtain ⟨w, hw, hadmits⟩ := hexpected name _ hmem hname (by simp)
        obtain ⟨t, rfl⟩ := hvalues' name w (Json.mem_of_lookup_eq_some hw)
        have hst : s = t := hadmits
        rw [hw, hst]
  · intro hsame
    constructor
    · intro name v hmem hname _
      obtain ⟨s, rfl⟩ := hvalues name v hmem
      have hv := Json.lookup_eq_some_of_mem hasc hmem
      exact ⟨_, (hsame name hname).symm.trans hv, rfl⟩
    · intro name w hmem hname
      have hw := Json.lookup_eq_some_of_mem hasc' hmem
      exact ⟨w, Json.mem_of_lookup_eq_some ((hsame name hname).trans hw)⟩

/-- Elements that count are compared by their tags, their attributes, and their
children in any order. -/
theorem compare_elements_anyOrder (ho : o.AnyOrder) {path other tag otherTag : String}
    {attributes others : List (String × Value)} {children otherChildren : List Node}
    (hcounts : o.ignoresElement tag = false) :
    compare o (.element path tag attributes children)
        (.element other otherTag others otherChildren) = [] ↔
      Text.sameName tag otherTag = true ∧
        (compareAttributes o path others attributes = [] ∧
          addedAttributes o path attributes others = []) ∧
        compareUnordered path (childTrials o children) (significantChildren o children)
          (significantChildren o otherChildren) = [] := by
  cases htag : Text.sameName tag otherTag with
  | false => simp [compare_elements_of_tag_ne hcounts htag]
  | true => simp [compare_elements hcounts htag, ho.unordered, significantChildren, and_assoc]

/-- Nodes of different kinds are neither alike nor compared without a difference. -/
theorem compare_eq_nil_iff_alike_of_kindName_ne {x y : Node} (hlooked : x.admitsAny o = false)
    (hkind : x.kindName ≠ y.kindName) : compare o x y = [] ↔ Alike o x y := by
  refine iff_of_false (compare_ne_nil_of_kindName_ne hlooked hkind) fun h => ?_
  cases h <;> exact hkind rfl

/-- **The comparison of literal pages decides likeness.** -/
theorem compare_eq_nil_iff_alike (ho : o.AnyOrder) {x y : Node} (hx : x.Literal)
    (hy : y.Literal) (hcounts : x.isLeftOut o = false) :
    compare o x y = [] ↔ Alike o x y := by
  induction x generalizing y with
  | element path tag attributes children ih =>
      have htag : o.ignoresElement tag = false := hcounts
      cases hx with
      | element hasc hvalues hchildren =>
          cases hy with
          | element hasc' hvalues' hchildren' =>
              rw [compare_elements_anyOrder ho htag, Alike.elements_iff,
                attributes_eq_nil_iff_same ho path hasc hasc' hvalues hvalues']
              refine and_congr_right fun _ => and_congr_right fun _ =>
                compareUnordered_eq_nil_iff_alike fun c hc d hd => ?_
              obtain ⟨hmem, hcount⟩ := mem_significantChildren.mp hc
              obtain ⟨hmem', -⟩ := mem_significantChildren.mp hd
              exact ih c hmem (hchildren c hmem) (hchildren' d hmem')
                (Node.isLeftOut_of_significant hcount)
          | _ => exact compare_eq_nil_iff_alike_of_kindName_ne htag (by simp [Node.kindName])
  | text path v =>
      cases hx with
      | text =>
          cases hy with
          | text =>
              rw [compare_texts, compareText_eq_nil_iff]
              exact ⟨.text, fun h => by cases h with | text h => exact h⟩
          | _ => exact compare_eq_nil_iff_alike_of_kindName_ne rfl (by simp [Node.kindName])
  | comment path s =>
      cases hy with
      | @comment other t =>
          have hcompare : compare o (.comment path s) (.comment other t) = [] ↔
              o.ignoreComments = true ∨ s = t := by
            by_cases h : o.ignoreComments = true ∨ s = t <;> simp [compare_comments, h]
          rw [hcompare]
          exact ⟨.comment, fun h => by cases h with | comment h => exact h⟩
      | _ => exact compare_eq_nil_iff_alike_of_kindName_ne rfl (by simp [Node.kindName])
  | doctype path s =>
      cases hy with
      | @doctype other t =>
          have hcompare : compare o (.doctype path s) (.doctype other t) = [] ↔
              Text.sameName s t = true := by
            by_cases h : Text.sameName s t = true <;> simp [compare_doctypes, h]
          rw [hcompare]
          exact ⟨.doctype, fun h => by cases h with | doctype h => exact h⟩
      | _ => exact compare_eq_nil_iff_alike_of_kindName_ne rfl (by simp [Node.kindName])

end Comparison

/-! ## Pages without paths -/

mutual

/-- A page with all paths made empty. -/
def Node.unplaced : Node → Node
  | .element _ tag attributes children => .element "" tag attributes (unplacedList children)
  | .text _ v => .text "" v
  | .comment _ s => .comment "" s
  | .doctype _ s => .doctype "" s

/-- Several nodes with all paths made empty. -/
def unplacedList : List Node → List Node
  | [] => []
  | n :: ns => n.unplaced :: unplacedList ns

end

theorem unplacedList_eq_map (ns : List Node) : unplacedList ns = ns.map Node.unplaced := by
  induction ns with
  | nil => rfl
  | cons n ns ih => exact congrArg (n.unplaced :: ·) ih

@[simp] theorem significant_unplaced (o : Options) (n : Node) :
    n.unplaced.significant o = n.significant o := by
  cases n <;> rfl

theorem significantChildren_unplaced (o : Options) (children : List Node) :
    significantChildren o (unplacedList children) =
      (significantChildren o children).map Node.unplaced := by
  have hsame : Node.significant o ∘ Node.unplaced = Node.significant o :=
    funext (significant_unplaced o)
  rw [unplacedList_eq_map, significantChildren, List.filter_map, hsame]
  rfl

/-- **Likeness does not look at paths.** -/
theorem alike_unplaced (o : Options) {n : Node} (h : n.Literal) : Alike o n n.unplaced := by
  induction n with
  | element path tag attributes children ih =>
      cases h with
      | element hasc hvalues hchildren =>
          refine Alike.elements_iff.mpr ⟨Text.sameName_refl tag, fun _ _ => rfl,
            (significantChildren o children).map Node.unplaced, ?_, ?_⟩
          · rw [significantChildren_unplaced]
          · rw [List.forall₂_map_right_iff, List.forall₂_same]
            intro c hc
            obtain ⟨hmem, -⟩ := mem_significantChildren.mp hc
            exact ih c hmem (hchildren c hmem)
  | text path v =>
      cases h with
      | text => exact .text rfl
  | comment path s => exact .comment (.inr rfl)
  | doctype path s => exact .doctype (Text.sameName_refl s)

/-- Pages that are equal but for their paths are alike. -/
theorem alike_of_unplaced_eq (o : Options) {x y : Node} (hx : x.Literal) (hy : y.Literal)
    (h : x.unplaced = y.unplaced) : Alike o x y := by
  have hback := (alike_unplaced o hy).symm
  rw [← h] at hback
  exact (alike_unplaced o hx).trans hback

/-! ## Comparing in any order -/

/-- A literal page that is not left out as a whole. -/
structure Node.Counts (o : Options) (n : Node) : Prop where
  literal : n.Literal
  isLeftOut : n.isLeftOut o = false

/-- **Comparing literal pages in any order is an equivalence.**  If the order of
no children counts and no attribute is left out on a single element only, the
comparison of literal pages is reflexive, symmetric and transitive and does not
depend on paths.  It finds nothing between two elements exactly if their tags
are the same up to case, their attributes are the same but for those that are
left out, and some order of the significant children of the one has nothing
against those of the other, pair by pair. -/
theorem compare_literal_anyOrder {o : Options} (ho : o.AnyOrder) :
    (∀ x : Node, x.Counts o → compare o x x = []) ∧
    (∀ x y : Node, x.Counts o → y.Counts o → compare o x y = [] → compare o y x = []) ∧
    (∀ x y z : Node, x.Counts o → y.Counts o → z.Counts o → compare o x y = [] →
      compare o y z = [] → compare o x z = []) ∧
    (∀ x x' y y' : Node, x.Counts o → x'.Counts o → y.Counts o → y'.Counts o →
      x.unplaced = x'.unplaced → y.unplaced = y'.unplaced →
      (compare o x y = [] ↔ compare o x' y' = [])) ∧
    (∀ (path other tag otherTag : String) (attributes others : List (String × Value))
      (children otherChildren : List Node),
      (Node.element path tag attributes children).Counts o →
      (Node.element other otherTag others otherChildren).Counts o →
      (compare o (.element path tag attributes children)
          (.element other otherTag others otherChildren) = [] ↔
        Text.sameName tag otherTag = true ∧ SameAttributes o attributes others ∧
          ∃ ordered, ordered.Perm (significantChildren o otherChildren) ∧
            List.Forall₂ (fun c d => compare o c d = [])
              (significantChildren o children) ordered)) := by
  have halike : ∀ {x y : Node}, x.Counts o → y.Counts o →
      (compare o x y = [] ↔ Alike o x y) :=
    fun hx hy => compare_eq_nil_iff_alike ho hx.literal hy.literal hx.isLeftOut
  refine ⟨fun x hx => compare_literal_self o hx.literal, ?_, ?_, ?_, ?_⟩
  · intro x y hx hy h
    exact (halike hy hx).mpr ((halike hx hy).mp h).symm
  · intro x y z hx hy hz hxy hyz
    exact (halike hx hz).mpr (((halike hx hy).mp hxy).trans ((halike hy hz).mp hyz))
  · intro x x' y y' hx hx' hy hy' hxx' hyy'
    have hleft := alike_of_unplaced_eq o hx.literal hx'.literal hxx'
    have hright := alike_of_unplaced_eq o hy.literal hy'.literal hyy'
    rw [halike hx hy, halike hx' hy']
    constructor
    · exact fun h => hleft.symm.trans (h.trans hright)
    · exact fun h => hleft.trans (h.trans hright.symm)
  · intro path other tag otherTag attributes others children otherChildren hx hy
    rw [halike hx hy, Alike.elements_iff]
    refine and_congr_right fun _ => and_congr_right fun _ =>
      exists_congr fun ordered => and_congr_right fun hperm => ?_
    cases hx.literal with
    | element _ _ hchildren =>
        cases hy.literal with
        | element _ _ hchildren' =>
            rw [Json.forall₂_iff_getElem?, Json.forall₂_iff_getElem?]
            refine and_congr_right fun _ => forall_congr' fun i => forall_congr' fun c =>
              forall_congr' fun d => forall_congr' fun hc => forall_congr' fun hd => ?_
            obtain ⟨hmem, hcount⟩ := mem_significantChildren.mp (List.mem_of_getElem? hc)
            obtain ⟨hmem', hcount'⟩ := mem_significantChildren.mp
              (hperm.subset (List.mem_of_getElem? hd))
            exact (halike ⟨hchildren c hmem, Node.isLeftOut_of_significant hcount⟩
              ⟨hchildren' d hmem', Node.isLeftOut_of_significant hcount'⟩).symm

/-- Two lists with their texts in the other order, a tag in capitals, an
attribute that is left out on one side and an element that is on the other. -/
theorem compare_literal_anyOrder_swapped :
    (Options.mk false false true [] ["script"] ["ID"] []).AnyOrder ∧
      (Node.element "ul" "ul" [("class", .literal "x"), ("id", .literal "7")]
        [.text "" (.literal "a"), .comment "" "b"]).Counts ⟨false, false, true, [], ["script"],
          ["ID"], []⟩ ∧
      (Node.element "" "UL" [("class", .literal "x")]
        [.comment "" "b", .element "" "Script" [] [], .text "" (.literal "\n a")]).Counts
          ⟨false, false, true, [], ["script"], ["ID"], []⟩ ∧
      compare ⟨false, false, true, [], ["script"], ["ID"], []⟩
        (.element "ul" "ul" [("class", .literal "x"), ("id", .literal "7")]
          [.text "" (.literal "a"), .comment "" "b"])
        (.element "" "UL" [("class", .literal "x")]
          [.comment "" "b", .element "" "Script" [] [], .text "" (.literal "\n a")]) = [] ∧
      compare ⟨false, false, true, [], ["script"], ["ID"], []⟩
        (.element "" "UL" [("class", .literal "x")]
          [.comment "" "b", .element "" "Script" [] [], .text "" (.literal "\n a")])
        (.element "ul" "ul" [("class", .literal "x"), ("id", .literal "7")]
          [.text "" (.literal "a"), .comment "" "b"]) = [] := by
  have ho : (Options.mk false false true [] ["script"] ["ID"] []).AnyOrder := ⟨rfl, rfl⟩
  have hscript : (Node.element "" "Script" [] []).Literal :=
    .element List.Pairwise.nil (by simp) (by simp)
  have hx : (Node.element "ul" "ul" [("class", .literal "x"), ("id", .literal "7")]
      [.text "" (.literal "a"), .comment "" "b"]).Counts ⟨false, false, true, [], ["script"],
        ["ID"], []⟩ := by
    refine ⟨.element ?_ ?_ ?_, by decide⟩
    · refine .cons (List.forall_mem_singleton.mpr ?_) (List.pairwise_singleton _ _)
      decide
    · grind
    · simp [Node.Literal.text, Node.Literal.comment]
  have hy : (Node.element "" "UL" [("class", .literal "x")]
      [.comment "" "b", .element "" "Script" [] [], .text "" (.literal "\n a")]).Counts
        ⟨false, false, true, [], ["script"], ["ID"], []⟩ := by
    refine ⟨.element ?_ ?_ ?_, by decide⟩
    · simp [Json.Ascending]
    · grind
    · simp [Node.Literal.text, Node.Literal.comment, hscript]
  obtain ⟨-, hsymm, -, -, helements⟩ := compare_literal_anyOrder ho
  have h := (helements _ _ _ _ _ _ _ _ hx hy).mpr ⟨by decide, ?_, _, List.Perm.swap _ _ _, ?_⟩
  · exact ⟨ho, hx, hy, h, hsymm _ _ hx hy h⟩
  · intro name hname
    have hid : "id" ≠ name := by
      rintro rfl
      exact absurd hname (by decide)
    by_cases hclass : "class" = name <;> simp [Json.lookup, hclass, hid]
  · exact .cons (by decide +kernel) (.cons (by decide +kernel) .nil)

end Expectation.Html
