import Expectation.Html.Comparison
import Expectation.Proofs.Json.Tree

/-!
# Which pages an expected page admits

An expected page stands for all the pages that a comparison finds nothing
against.  `Admits` describes that set by the shape of the expected page, node
by node: what it takes for a text or an attribute value to be accepted, for an
element to be admitted through its tag, its attributes and its significant
children, and which nodes are never looked at.

The comparison walks over the expected children and skips those that do not
count as it goes, while the actual children have been sorted out before.
`compareChildren_filter` says that sorting out both beforehand makes no
difference; from there on the children are two lists that are compared place
by place.

## Main results

* `Node.induct`: induction on pages.
* `compareChildren_filter`: children that do not count may be left out first.
* `compareChildren_eq_nil_iff`, `compareAttributes_eq_nil_iff`,
  `addedAttributes_eq_nil_iff`: what each loop has to find at every place.
* `compare_texts`, `compare_elements`, `compare_of_kindName_ne`: the comparison of two
  nodes, by their kinds.
* `compare_congr`: where the options play a small part only.
* `compare_eq_nil_of_admits`, `admits_of_compare_eq_nil`: the two directions.
* `compare_eq_nil_iff_admits`: no difference means admission.
-/

namespace Expectation.Html

/-- Induction on pages: the children of an element may be assumed to have the
property already. -/
@[elab_as_elim, induction_eliminator]
theorem Node.induct {motive : Node → Prop}
    (element : ∀ path tag attributes children, (∀ c ∈ children, motive c) →
      motive (.element path tag attributes children))
    (text : ∀ path v, motive (.text path v))
    (comment : ∀ path s, motive (.comment path s))
    (doctype : ∀ path s, motive (.doctype path s)) (n : Node) : motive n := by
  refine @Node.rec motive (fun children => ∀ c ∈ children, motive c)
    element text comment doctype ?_ ?_ n
  · intro c hc
    exact absurd hc List.not_mem_nil
  · intro c cs hhead htail d hd
    rcases List.mem_cons.mp hd with rfl | hd
    · exact hhead
    · exact htail d hd

/-- The order of all children counts. -/
def Options.KeepsOrder (o : Options) : Prop :=
  o.ignoreChildOrder = false ∧ o.ignoreChildOrderPaths = []

theorem Options.KeepsOrder.unordered {o : Options} (h : o.KeepsOrder) (path : String) :
    o.unordered path = false := by
  obtain ⟨hall, hpaths⟩ := h
  simp [Options.unordered, hall, hpaths]

/-! ## Admission -/

namespace Value

/-- The text of a node is accepted: a matcher sees it as it is compared, a
template as it stands, and a literal has to be the same as it is compared. -/
def AdmitsText (o : Options) : Value → String → Prop
  | .matcher m, text => m.acceptsText (comparedText o text) = true
  | .template t, text => t.isMatch (!o.preserveWhitespace) text = true
  | .literal s, text => comparedText o s = comparedText o text

/-- The value of an attribute is accepted.  Its blanks always count, except in
a template. -/
def AdmitsAttribute (o : Options) : Value → String → Prop
  | .matcher m, text => m.acceptsText text = true
  | .template t, text => t.isMatch (!o.preserveWhitespace) text = true
  | .literal s, text => s = text

end Value

/-- An expected page admits an actual one. -/
inductive Admits (o : Options) : Node → Node → Prop where
  /-- An element that is left out admits anything. -/
  | ignoredElement {path tag : String} {attributes : List (String × Value)}
      {children : List Node} {actual : Node} (h : o.ignoresElement tag = true) :
      Admits o (.element path tag attributes children) actual
  /-- A text that is to be ignored admits anything. -/
  | ignoredText {path : String} {actual : Node} :
      Admits o (.text path (.matcher .ignore)) actual
  | text {path other : String} {v w : Value} (h : v.AdmitsText o w.text) :
      Admits o (.text path v) (.text other w)
  | comment {path other s t : String} (h : o.ignoreComments = true ∨ s = t) :
      Admits o (.comment path s) (.comment other t)
  | doctype {path other s t : String} (h : Text.sameName s t = true) :
      Admits o (.doctype path s) (.doctype other t)
  /-- An element admits one with the same tag that has the expected attributes
  and no others, and significant children that are admitted place by place.
  Attributes that are left out do not count, nor does an expected attribute
  that is to be ignored. -/
  | element {path other tag otherTag : String} {attributes others : List (String × Value)}
      {children otherChildren : List Node} (htag : Text.sameName tag otherTag = true)
      (hattributes : ∀ name v, (name, v) ∈ attributes →
        o.ignoresAttribute path name = false → v ≠ .matcher .ignore →
        ∃ w, Json.lookup name others = some w ∧ v.AdmitsAttribute o w.text)
      (hexpected : ∀ name w, (name, w) ∈ others →
        o.ignoresAttribute path name = false → ∃ v, (name, v) ∈ attributes)
      (hlength : (children.filter (Node.significant o)).length =
        (otherChildren.filter (Node.significant o)).length)
      (hchildren : ∀ (i : Nat) c d, (children.filter (Node.significant o))[i]? = some c →
        (otherChildren.filter (Node.significant o))[i]? = some d → Admits o c d) :
      Admits o (.element path tag attributes children)
        (.element other otherTag others otherChildren)

/-! ## Single values -/

theorem Value.any_isIgnore_eq_true_iff (v : Value) :
    v.matcher?.any Matcher.isIgnore = true ↔ v = .matcher .ignore := by
  cases v with
  | matcher m => cases m <;> simp [Value.matcher?, Matcher.isIgnore]
  | _ => simp [Value.matcher?]

theorem compareText_eq_nil_iff (o : Options) (path : String) (expected actual : Value) :
    compareText o path expected actual = [] ↔ expected.AdmitsText o actual.text := by
  cases expected <;> simp [compareText, Value.AdmitsText]

theorem compareValue_eq_nil_iff (o : Options) (path : String) (expected actual : Value) :
    compareValue o path expected actual = [] ↔ expected.AdmitsAttribute o actual.text := by
  cases expected <;> simp [compareValue, Value.AdmitsAttribute]

/-! ## Attributes -/

/-- What is reported at a single expected attribute. -/
def attributeReport (o : Options) (path : String) (actual : List (String × Value))
    (name : String) (v : Value) : List Difference :=
  if o.ignoresAttribute path name || v.matcher?.any Matcher.isIgnore then []
  else match Json.lookup name actual with
    | none => [⟨attributePath path name, .removed, v.side, .absent⟩]
    | some w => compareValue o (attributePath path name) v w

/-- What is reported at a single actual attribute that may not be expected. -/
def attributeAddition (o : Options) (path : String) (expected : List (String × Value))
    (name : String) (w : Value) : List Difference :=
  if (Json.lookup name expected).isSome || o.ignoresAttribute path name then []
  else [⟨attributePath path name, .added, .absent, w.side⟩]

theorem compareAttributes_eq_flatMap (o : Options) (path : String)
    (actual expected : List (String × Value)) :
    compareAttributes o path actual expected =
      expected.flatMap fun a => attributeReport o path actual a.1 a.2 := by
  induction expected with
  | nil => rw [compareAttributes, List.flatMap_nil]
  | cons first rest ih =>
      rw [compareAttributes, ih, List.flatMap_cons]
      rfl

theorem addedAttributes_eq_flatMap (o : Options) (path : String)
    (expected actual : List (String × Value)) :
    addedAttributes o path expected actual =
      actual.flatMap fun a => attributeAddition o path expected a.1 a.2 := by
  induction actual with
  | nil => rw [addedAttributes, List.flatMap_nil]
  | cons first rest ih =>
      rw [addedAttributes, ih, List.flatMap_cons]
      rfl

theorem attributeReport_eq_nil_iff (o : Options) (path : String)
    (actual : List (String × Value)) (name : String) (v : Value) :
    attributeReport o path actual name v = [] ↔
      (o.ignoresAttribute path name = false → v ≠ .matcher .ignore →
        ∃ w, Json.lookup name actual = some w ∧ v.AdmitsAttribute o w.text) := by
  unfold attributeReport
  cases hname : o.ignoresAttribute path name with
  | true => simp
  | false =>
      by_cases hignore : v = .matcher .ignore
      · subst hignore
        simp [Value.matcher?, Matcher.isIgnore]
      · have hnot : ¬ v.matcher?.any Matcher.isIgnore = true :=
          fun h => hignore (v.any_isIgnore_eq_true_iff.mp h)
        rw [Bool.false_or, if_neg hnot]
        cases Json.lookup name actual with
        | none => simp [hignore]
        | some w => simp [hignore, compareValue_eq_nil_iff]

theorem attributeAddition_eq_nil_iff (o : Options) (path : String)
    (expected : List (String × Value)) (name : String) (w : Value) :
    attributeAddition o path expected name w = [] ↔
      (o.ignoresAttribute path name = false → ∃ v, (name, v) ∈ expected) := by
  unfold attributeAddition
  rw [← Json.lookup_isSome]
  cases o.ignoresAttribute path name <;> cases (Json.lookup name expected).isSome <;> simp

/-- The expected attributes have nothing to report exactly when each of them
that counts is there with an accepted value. -/
theorem compareAttributes_eq_nil_iff (o : Options) (path : String)
    (actual expected : List (String × Value)) :
    compareAttributes o path actual expected = [] ↔
      ∀ name v, (name, v) ∈ expected → o.ignoresAttribute path name = false →
        v ≠ .matcher .ignore →
        ∃ w, Json.lookup name actual = some w ∧ v.AdmitsAttribute o w.text := by
  rw [compareAttributes_eq_flatMap, List.flatMap_eq_nil_iff]
  simp only [attributeReport_eq_nil_iff, Prod.forall]

/-- No attribute is added exactly when every actual one that counts is expected. -/
theorem addedAttributes_eq_nil_iff (o : Options) (path : String)
    (expected actual : List (String × Value)) :
    addedAttributes o path expected actual = [] ↔
      ∀ name w, (name, w) ∈ actual → o.ignoresAttribute path name = false →
        ∃ v, (name, v) ∈ expected := by
  rw [addedAttributes_eq_flatMap, List.flatMap_eq_nil_iff]
  simp only [attributeAddition_eq_nil_iff, Prod.forall]

/-! ## Children -/

/-- Leaving out the children that do not count before the comparison is the same
as passing over them. -/
theorem compareChildren_filter (o : Options) (expected actuals : List Node) :
    compareChildren o expected actuals =
      compareChildren o (expected.filter (Node.significant o)) actuals := by
  induction expected generalizing actuals with
  | nil => rfl
  | cons e es ih =>
      by_cases hcounts : e.significant o = true
      · rw [List.filter_cons_of_pos hcounts]
        cases actuals with
        | nil => simp [compareChildren, hcounts, ← ih]
        | cons a as => simp [compareChildren, hcounts, ← ih]
      · rw [List.filter_cons_of_neg hcounts, ← ih]
        simp [compareChildren, hcounts]

/-- Children that all count have nothing to report exactly when there are as
many on both sides and none of the pairs has. -/
theorem compareChildren_eq_nil_iff (o : Options) (expected actuals : List Node)
    (hcount : ∀ e ∈ expected, e.significant o = true) :
    compareChildren o expected actuals = [] ↔
      expected.length = actuals.length ∧
        ∀ (i : Nat) e a, expected[i]? = some e → actuals[i]? = some a → compare o e a = [] := by
  induction expected generalizing actuals with
  | nil =>
      rw [compareChildren, List.map_eq_nil_iff]
      constructor
      · rintro rfl
        exact ⟨rfl, by simp⟩
      · rintro ⟨hlength, -⟩
        exact List.eq_nil_of_length_eq_zero hlength.symm
  | cons e es ih =>
      have hhead : e.significant o = true := hcount e List.mem_cons_self
      have htail : ∀ d ∈ es, d.significant o = true :=
        fun d hd => hcount d (List.mem_cons_of_mem _ hd)
      cases actuals with
      | nil => simp [compareChildren, hhead]
      | cons a as =>
          have hstep : compareChildren o (e :: es) (a :: as) =
              compare o e a ++ compareChildren o es as := by
            simp [compareChildren, hhead]
          rw [hstep, List.append_eq_nil_iff, ih as htail]
          simp only [List.length_cons, Nat.add_right_cancel_iff]
          constructor
          · rintro ⟨hfirst, hlength, hrest⟩
            refine ⟨hlength, ?_⟩
            intro i d b hd hb
            cases i with
            | zero =>
                obtain rfl : e = d := by simpa using hd
                obtain rfl : a = b := by simpa using hb
                exact hfirst
            | succ i => exact hrest i d b (by simpa using hd) (by simpa using hb)
          · rintro ⟨hlength, hall⟩
            refine ⟨hall 0 e a rfl rfl, hlength, ?_⟩
            intro i d b hd hb
            exact hall (i + 1) d b (by simpa using hd) (by simpa using hb)

/-- The same for children of which some may not count. -/
theorem compareChildren_significant_eq_nil_iff (o : Options)
    (children actuals : List Node) :
    compareChildren o children actuals = [] ↔
      (children.filter (Node.significant o)).length = actuals.length ∧
        ∀ (i : Nat) e a, (children.filter (Node.significant o))[i]? = some e →
          actuals[i]? = some a → compare o e a = [] := by
  rw [compareChildren_filter]
  exact compareChildren_eq_nil_iff o _ actuals fun e he => (List.mem_filter.mp he).2

/-! ## Single nodes -/

/-- Whether an expected node admits any node, so that the actual one is not looked at. -/
def Node.admitsAny (o : Options) : Node → Bool
  | .element _ tag _ _ => o.ignoresElement tag
  | .text _ v => v.matcher?.any Matcher.isIgnore
  | _ => false

section Nodes

variable {o : Options} {path other : String}

theorem compare_of_admitsAny {expected : Node} (h : expected.admitsAny o = true)
    (actual : Node) : compare o expected actual = [] := by
  cases expected with
  | element | text => exact if_pos h
  | _ => exact absurd h Bool.false_ne_true

/-- Nothing is reported about an element that is left out. -/
theorem compare_of_ignoresElement {tag : String} (h : o.ignoresElement tag = true)
    {attributes : List (String × Value)} {children : List Node} {actual : Node} :
    compare o (.element path tag attributes children) actual = [] := by
  refine compare_of_admitsAny ?_ actual
  exact h

/-- **Nodes of different kinds are reported as such.** -/
theorem compare_of_kindName_ne {expected actual : Node} (hlooked : expected.admitsAny o = false)
    (hkind : expected.kindName ≠ actual.kindName) :
    compare o expected actual = [mismatched expected.path expected actual] := by
  cases expected with
  | element | text =>
      cases actual <;>
        first
        | exact absurd rfl hkind
        | exact if_neg (Bool.eq_false_iff.mp hlooked)
  | _ =>
      cases actual <;>
        first
        | exact absurd rfl hkind
        | rfl

theorem compare_ne_nil_of_kindName_ne {expected actual : Node}
    (hlooked : expected.admitsAny o = false) (hkind : expected.kindName ≠ actual.kindName) :
    compare o expected actual ≠ [] := by
  rw [compare_of_kindName_ne hlooked hkind]
  exact List.cons_ne_nil _ _

theorem compare_texts (v w : Value) :
    compare o (.text path v) (.text other w) = compareText o path v w := by
  cases hlooked : v.matcher?.any Matcher.isIgnore with
  | true =>
      obtain rfl := v.any_isIgnore_eq_true_iff.mp hlooked
      have haccepted : compareText o path (.matcher .ignore) w = [] :=
        (compareText_eq_nil_iff o path _ w).mpr rfl
      rw [haccepted]
      exact compare_of_admitsAny rfl _
  | false => exact if_neg (Bool.eq_false_iff.mp hlooked)

theorem compare_comments (s t : String) :
    compare o (.comment path s) (.comment other t) =
      if o.ignoreComments || s = t then [] else [⟨path, .changed, textSide s, textSide t⟩] := rfl

theorem compare_doctypes (s t : String) :
    compare o (.doctype path s) (.doctype other t) =
      if Text.sameName s t then [] else [⟨path, .changed, textSide s, textSide t⟩] := rfl

variable {tag otherTag : String} {attributes others : List (String × Value)}
  {children otherChildren : List Node} (hcounts : o.ignoresElement tag = false)

include hcounts

/-- Elements with different tags are shown by their tags. -/
theorem compare_elements_of_tag_ne (htag : Text.sameName tag otherTag = false) :
    compare o (.element path tag attributes children)
        (.element other otherTag others otherChildren) =
      [⟨path, .changed, .description ("<" ++ tag ++ ">"),
        .description ("<" ++ otherTag ++ ">")⟩] :=
  (if_neg (Bool.eq_false_iff.mp hcounts)).trans (if_pos (by simp [htag]))

/-- Elements with the same tag are compared by their attributes, then by their children that
count, in order or in any order. -/
theorem compare_elements (htag : Text.sameName tag otherTag = true) :
    compare o (.element path tag attributes children)
        (.element other otherTag others otherChildren) =
      compareAttributes o path others attributes ++ addedAttributes o path attributes others ++
        if o.unordered path then
          compareUnordered path (childTrials o children) (children.filter (Node.significant o))
            (otherChildren.filter (Node.significant o))
        else compareChildren o children (otherChildren.filter (Node.significant o)) :=
  (if_neg (Bool.eq_false_iff.mp hcounts)).trans (if_neg (by simp [htag]))

end Nodes

/-- **Where the comparison goes no further**, because not both nodes are elements, it depends on
what the options say about elements that are left out, blanks and comments. -/
theorem compare_congr {o o' : Options} {expected actual : Node}
    (helement : ∀ tag, o.ignoresElement tag = o'.ignoresElement tag)
    (hblanks : o.preserveWhitespace = o'.preserveWhitespace)
    (hcomments : o.ignoreComments = o'.ignoreComments)
    (hflat : expected.kindName = actual.kindName → expected.kindName ≠ "element") :
    compare o expected actual = compare o' expected actual := by
  have hcompared : comparedText o = comparedText o' := by
    unfold comparedText
    rw [hblanks]
  have htexts : ∀ path v w, compareText o path v w = compareText o' path v w := by
    intro path v w
    cases v <;> simp only [compareText, hcompared, hblanks]
  cases expected with
  | element =>
      cases actual with
      | element => exact absurd rfl (hflat rfl)
      | _ =>
          unfold compare
          rw [helement]
  | text =>
      cases actual with
      | text => rw [compare_texts, compare_texts, htexts]
      | _ => rfl
  | comment =>
      cases actual with
      | comment => rw [compare_comments, compare_comments, hcomments]
      | _ => rfl
  | doctype => rfl

/-! ## The two directions -/

/-- An element that counts has nothing against one with the same tag exactly
when neither its attributes nor its children have. -/
theorem compare_elements_eq_nil_iff {o : Options} (ho : o.KeepsOrder)
    {path other tag otherTag : String} {attributes others : List (String × Value)}
    {children otherChildren : List Node} (hcounts : o.ignoresElement tag = false) :
    compare o (.element path tag attributes children)
        (.element other otherTag others otherChildren) = [] ↔
      Text.sameName tag otherTag = true ∧
        compareAttributes o path others attributes = [] ∧
        addedAttributes o path attributes others = [] ∧
        compareChildren o children (otherChildren.filter (Node.significant o)) = [] := by
  cases htag : Text.sameName tag otherTag with
  | false => simp [compare_elements_of_tag_ne hcounts htag]
  | true => simp [compare_elements hcounts htag, ho.unordered]

/-- **Completeness.**  Nothing is reported for a page that is admitted. -/
theorem compare_eq_nil_of_admits {o : Options} (ho : o.KeepsOrder)
    {expected actual : Node} (h : Admits o expected actual) :
    compare o expected actual = [] := by
  induction h with
  | ignoredElement h => exact compare_of_ignoresElement h
  | ignoredText => exact compare_of_admitsAny rfl _
  | @text path other v w h =>
      rw [compare_texts]
      exact (compareText_eq_nil_iff o path v w).mpr h
  | comment h => simp [compare_comments, h]
  | doctype h => simp [compare_doctypes, h]
  | @element path other tag otherTag attributes others children otherChildren
      htag hattributes hexpected hlength _ ih =>
      cases hcounts : o.ignoresElement tag with
      | true => exact compare_of_ignoresElement hcounts
      | false =>
          rw [compare_elements_eq_nil_iff ho hcounts]
          refine ⟨htag, ?_, ?_, ?_⟩
          · exact (compareAttributes_eq_nil_iff o path others attributes).mpr hattributes
          · exact (addedAttributes_eq_nil_iff o path attributes others).mpr hexpected
          · exact (compareChildren_significant_eq_nil_iff o children _).mpr ⟨hlength, ih⟩

/-- **Soundness.**  A page against which nothing is reported is admitted. -/
theorem admits_of_compare_eq_nil {o : Options} (ho : o.KeepsOrder)
    {expected actual : Node} (h : compare o expected actual = []) :
    Admits o expected actual := by
  induction expected generalizing actual with
  | element path tag attributes children ih =>
      cases hcounts : o.ignoresElement tag with
      | true => exact .ignoredElement hcounts
      | false =>
          cases actual with
          | element other otherTag others otherChildren =>
              obtain ⟨htag, hattributes, hadded, hchildren⟩ :=
                (compare_elements_eq_nil_iff ho hcounts).mp h
              obtain ⟨hlength, hpairs⟩ :=
                (compareChildren_significant_eq_nil_iff o children _).mp hchildren
              refine .element htag
                ((compareAttributes_eq_nil_iff o path others attributes).mp hattributes)
                ((addedAttributes_eq_nil_iff o path attributes others).mp hadded)
                hlength ?_
              intro i c d hc hd
              have hmem : c ∈ children :=
                (List.mem_filter.mp (List.mem_of_getElem? hc)).1
              exact ih c hmem (hpairs i c d hc hd)
          | _ =>
              refine absurd h (compare_ne_nil_of_kindName_ne hcounts ?_)
              simp [Node.kindName]
  | text path v =>
      cases hlooked : v.matcher?.any Matcher.isIgnore with
      | true =>
          obtain rfl := v.any_isIgnore_eq_true_iff.mp hlooked
          exact .ignoredText
      | false =>
          cases actual with
          | text other w =>
              rw [compare_texts] at h
              exact .text ((compareText_eq_nil_iff o path v w).mp h)
          | _ =>
              refine absurd h (compare_ne_nil_of_kindName_ne hlooked ?_)
              simp [Node.kindName]
  | comment path s =>
      cases actual with
      | comment other t =>
          by_cases hsame : o.ignoreComments = true ∨ s = t
          · exact .comment hsame
          · simp [compare_comments, hsame] at h
      | _ => exact absurd h (compare_ne_nil_of_kindName_ne rfl (by simp [Node.kindName]))
  | doctype path s =>
      cases actual with
      | doctype other t =>
          by_cases hsame : Text.sameName s t = true
          · exact .doctype hsame
          · simp [compare_doctypes, hsame] at h
      | _ => exact absurd h (compare_ne_nil_of_kindName_ne rfl (by simp [Node.kindName]))

/-- **The comparison decides admission.**  With the order of children kept, no
difference is found exactly when the expected page admits the actual one. -/
theorem compare_eq_nil_iff_admits {o : Options} (ho : o.KeepsOrder)
    (expected actual : Node) :
    compare o expected actual = [] ↔ Admits o expected actual :=
  ⟨admits_of_compare_eq_nil ho, compare_eq_nil_of_admits ho⟩

/-- A matcher for an attribute, an ignored attribute, a comment that shifts the
children, and blanks that collapse. -/
theorem admits_paragraph :
    (Options.mk true false false [] [] ["id"] []).KeepsOrder ∧
      Admits ⟨true, false, false, [], [], ["id"], []⟩
        (.element "p" "p" [("class", .matcher .anyString)] [.text "p" (.literal "a b")])
        (.element "p" "P" [("class", .literal "x"), ("id", .literal "7")]
          [.comment "p" "note", .text "p" (.literal "a \n b")]) :=
  ⟨⟨rfl, rfl⟩, (compare_eq_nil_iff_admits ⟨rfl, rfl⟩ _ _).mp (by decide +kernel)⟩

end Expectation.Html
