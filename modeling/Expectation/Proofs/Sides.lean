import Expectation.Proofs.Html.Likeness
import Expectation.Proofs.Json.Positions

/-!
# The two sides of a difference

A report shows two sides of every difference, and readers go by its kind when
they look at them: an addition has nothing on the expected side, a removal has
nothing on the actual one, a failure shows the rule that failed, a clash of types
shows two things of different types.  `Difference.Fits` says so, with what counts
as a rule and as a clash left to the format, and everything that a comparison
reports fits its kind.  The rules are those that stand in the expected document,
each at the path at which its failure is reported.

Only where parts are paired in any order is this more than reading off what is
built.  A part without a match is shown as changed, next to a part that nobody
claimed, and there has to be one: as many parts are left over on one side as on
the other.

## Main results

* `Json.fits_of_reported`: the reasons for a difference between JSON trees.
* `Html.fits_of_mem_compare`: the differences between pages.
* `sides_fit_kind`: all differences that either comparison reports.
-/

namespace Expectation

theorem Side.value_ne_absent (v : Json.Value) : Side.value v ≠ .absent := nofun

theorem Side.description_ne_absent (text : String) : Side.description text ≠ .absent := nofun

/-- The sides of a difference fit its kind.  `Rule` says which descriptions are
those of a rule at a path, and `Clash` which two sides show things of different
types. -/
def Difference.Fits (Rule : String → String → Prop) (Clash : Side → Side → Prop)
    (d : Difference) : Prop :=
  match d.kind with
  | .added => d.expected = .absent ∧ d.actual ≠ .absent
  | .removed => d.expected ≠ .absent ∧ d.actual = .absent
  | .changed => d.expected ≠ .absent ∧ d.actual ≠ .absent
  | .typeMismatch => d.expected ≠ .absent ∧ d.actual ≠ .absent ∧ Clash d.expected d.actual
  | .matcherFailed =>
    d.expected ≠ .absent ∧ d.actual ≠ .absent ∧
      ∃ text, d.expected = .description text ∧ Rule d.path text

/-- Where there are more rules, the sides still fit. -/
theorem Difference.Fits.mono {Rule Other : String → String → Prop} {Clash : Side → Side → Prop}
    {d : Difference} (h : d.Fits Rule Clash)
    (hrules : ∀ path text, Rule path text → Other path text) : d.Fits Other Clash := by
  obtain ⟨path, kind, expected, actual⟩ := d
  cases kind with
  | matcherFailed =>
      obtain ⟨hexpected, hactual, text, htext, hrule⟩ := h
      exact ⟨hexpected, hactual, text, htext, hrules path text hrule⟩
  | _ => exact h

/-! ## JSON trees -/

namespace Json

/-- The description of a matcher that stands at a path. -/
def IsRule (matchers : List (String × Matcher)) (path text : String) : Prop :=
  ∃ m : Matcher, (path, m) ∈ matchers ∧ text = m.describe

/-- Two values of different types. -/
def Clash (expected actual : Side) : Prop :=
  ∃ v w : Value, expected = .value v ∧ actual = .value w ∧ v.typeName ≠ w.typeName

theorem IsRule.mono {matchers others : List (String × Matcher)} (hsubset : matchers ⊆ others)
    (path text : String) (h : IsRule matchers path text) : IsRule others path text := by
  obtain ⟨m, hm, htext⟩ := h
  exact ⟨m, hsubset hm, htext⟩

/-- The matchers of an item are matchers of the array. -/
theorem matcherPaths_subset_of_item {path : String} {items : List Value} {i : Nat} {v : Value}
    (h : items[i]? = some v) :
    v.matcherPaths (indexPath path i) ⊆ (Value.array items).matcherPaths path := by
  intro entry hentry
  rw [Value.matcherPaths, Value.matcherPathsItems_eq_flatMap]
  exact List.mem_flatMap.mpr ⟨(v, i), List.mk_mem_zipIdx_iff_getElem?.mpr h, hentry⟩

/-- The matchers of a member are matchers of the object. -/
theorem matcherPaths_subset_of_member {path k : String} {members : List (String × Value)}
    {v : Value} (h : (k, v) ∈ members) :
    v.matcherPaths (keyPath path k) ⊆ (Value.object members).matcherPaths path := by
  intro entry hentry
  rw [Value.matcherPaths, Value.matcherPathsMembers_eq_flatMap]
  exact List.mem_flatMap.mpr ⟨(k, v), h, hentry⟩

/-- Whatever is reported between two trees has sides that fit its kind. -/
theorem fits_of_reported {o : Options} {path : String} {expected actual : Value}
    {d : Difference} (h : Reported o path expected actual d) :
    d.Fits (IsRule (expected.matcherPaths path)) Clash := by
  induction h with
  | @rejected path m actual h =>
      exact ⟨Side.description_ne_absent _, Side.value_ne_absent _, m.describe, rfl, m,
        List.mem_singleton_self _, rfl⟩
  | @mismatched path expected actual h =>
      exact ⟨Side.value_ne_absent _, Side.value_ne_absent _, expected, actual, rfl, rfl, h⟩
  | added | addedItem | addedMember => exact ⟨rfl, Side.value_ne_absent _⟩
  | removed | removedItem | removedMember => exact ⟨Side.value_ne_absent _, rfl⟩
  | changed | unmatched => exact ⟨Side.value_ne_absent _, Side.value_ne_absent _⟩
  | lengths => exact ⟨Side.description_ne_absent _, Side.description_ne_absent _⟩
  | item _ _ hv _ _ ih => exact ih.mono (IsRule.mono (matcherPaths_subset_of_item hv))
  | member _ hv _ _ ih => exact ih.mono (IsRule.mono (matcherPaths_subset_of_member hv))

end Json

/-! ## Pages -/

namespace Html

mutual

/-- The texts and attribute values of a page with the paths by which they are reported. -/
def Node.valuePaths : Node → List (String × Value)
  | .element path _ attributes children =>
    attributes.map (fun (name, v) => (attributePath path name, v)) ++
      Node.valuePathsList children
  | .text path v => [(path, v)]
  | .comment .. | .doctype .. => []

/-- The texts and attribute values of several parts of a page. -/
def Node.valuePathsList : List Node → List (String × Value)
  | [] => []
  | n :: ns => n.valuePaths ++ Node.valuePathsList ns

end

theorem Node.valuePaths_subset_list {n : Node} {ns : List Node} (h : n ∈ ns) :
    n.valuePaths ⊆ Node.valuePathsList ns := by
  induction ns with
  | nil => contradiction
  | cons c cs ih =>
      intro entry hentry
      rcases List.mem_cons.mp h with rfl | h
      · exact List.mem_append_left _ hentry
      · exact List.mem_append_right _ (ih h hentry)

/-- The description of a matcher or of a template that stands at a path. -/
def IsRule (values : List (String × Value)) (path text : String) : Prop :=
  (∃ m : Matcher, (path, .matcher m) ∈ values ∧ text = m.describe) ∨
    ∃ t : Template, (path, .template t) ∈ values ∧ text = t.describe

theorem IsRule.mono {values others : List (String × Value)} (hsubset : values ⊆ others)
    (path text : String) (h : IsRule values path text) : IsRule others path text := by
  rcases h with ⟨m, hm, htext⟩ | ⟨t, ht, htext⟩
  · exact .inl ⟨m, hsubset hm, htext⟩
  · exact .inr ⟨t, hsubset ht, htext⟩

/-- The names of the kinds of two nodes of different kinds. -/
def Clash (expected actual : Side) : Prop :=
  ∃ m n : Node, expected = .description m.kindName ∧ actual = .description n.kindName ∧
    m.kindName ≠ n.kindName

variable {o : Options} {path : String} {d : Difference} {values : List (String × Value)}

/-- A rule that failed is shown with the text that it does not accept. -/
theorem fits_of_isRule {rule text : String} (h : IsRule values path rule) :
    Difference.Fits (IsRule values) Clash
      ⟨path, .matcherFailed, .description rule, textSide text⟩ :=
  ⟨Side.description_ne_absent rule, Side.value_ne_absent _, rule, rfl, h⟩

/-- Of two texts that differ, both are shown. -/
theorem fits_of_texts (path s t : String) :
    Difference.Fits (IsRule values) Clash ⟨path, .changed, textSide s, textSide t⟩ :=
  ⟨Side.value_ne_absent _, Side.value_ne_absent _⟩

/-- Of two nodes that differ, or two numbers of nodes, both are described. -/
theorem fits_of_descriptions (path s t : String) :
    Difference.Fits (IsRule values) Clash ⟨path, .changed, .description s, .description t⟩ :=
  ⟨Side.description_ne_absent s, Side.description_ne_absent t⟩

/-- A side of an attribute is never absent. -/
theorem Value.side_ne_absent (v : Value) : v.side ≠ .absent := by
  cases v with
  | literal s => exact Side.value_ne_absent _
  | _ => exact Side.description_ne_absent _

/-- Behind a guard nothing else is reported than the one difference. -/
theorem eq_of_mem_guarded {c : Prop} [Decidable c] {e : Difference}
    (h : d ∈ if c then [] else [e]) : d = e :=
  List.mem_singleton.mp (List.mem_ite_nil_left.mp h).2

theorem fits_of_mem_compareText {expected actual : Value} (hplace : (path, expected) ∈ values)
    (h : d ∈ compareText o path expected actual) : d.Fits (IsRule values) Clash := by
  cases expected with
  | literal s =>
      rw [eq_of_mem_guarded h]
      exact fits_of_texts ..
  | matcher m =>
      rw [eq_of_mem_guarded h]
      exact fits_of_isRule (.inl ⟨m, hplace, rfl⟩)
  | template t =>
      rw [eq_of_mem_guarded h]
      exact fits_of_isRule (.inr ⟨t, hplace, rfl⟩)

theorem fits_of_mem_compareValue {expected actual : Value} (hplace : (path, expected) ∈ values)
    (h : d ∈ compareValue o path expected actual) : d.Fits (IsRule values) Clash := by
  cases expected with
  | literal s =>
      rw [eq_of_mem_guarded h]
      exact fits_of_texts ..
  | matcher m =>
      rw [eq_of_mem_guarded h]
      exact fits_of_isRule (.inl ⟨m, hplace, rfl⟩)
  | template t =>
      rw [eq_of_mem_guarded h]
      exact fits_of_isRule (.inr ⟨t, hplace, rfl⟩)

/-- The attributes of an element have fitting differences if they are among the values. -/
theorem fits_of_mem_compareAttributes {expected actual : List (String × Value)}
    (hplaces : ∀ name v, (name, v) ∈ expected → (attributePath path name, v) ∈ values)
    (h : d ∈ compareAttributes o path actual expected) : d.Fits (IsRule values) Clash := by
  rw [compareAttributes_eq_flatMap] at h
  obtain ⟨⟨name, v⟩, hv, hname⟩ := List.mem_flatMap.mp h
  unfold attributeReport at hname
  split at hname
  · exact absurd hname List.not_mem_nil
  · split at hname
    · rw [List.mem_singleton.mp hname]
      exact ⟨v.side_ne_absent, rfl⟩
    · exact fits_of_mem_compareValue (hplaces name v hv) hname

theorem fits_of_mem_addedAttributes {expected actual : List (String × Value)}
    (h : d ∈ addedAttributes o path expected actual) : d.Fits (IsRule values) Clash := by
  rw [addedAttributes_eq_flatMap] at h
  obtain ⟨⟨name, w⟩, -, hname⟩ := List.mem_flatMap.mp h
  rw [eq_of_mem_guarded hname]
  exact ⟨rfl, w.side_ne_absent⟩

/-- Children compared place by place have fitting differences if single children
have. -/
theorem fits_of_mem_compareChildren {expected actuals : List Node}
    (hexpected : ∀ e ∈ expected, ∀ {d a}, d ∈ compare o e a → d.Fits (IsRule values) Clash)
    (h : d ∈ compareChildren o expected actuals) : d.Fits (IsRule values) Clash := by
  induction expected generalizing actuals with
  | nil =>
      obtain ⟨n, -, rfl⟩ := List.mem_map.mp (by simpa [compareChildren] using h)
      exact ⟨rfl, Side.description_ne_absent _⟩
  | cons e es ih =>
      have htail : ∀ {as}, d ∈ compareChildren o es as → d.Fits (IsRule values) Clash :=
        ih fun c hc => hexpected c (List.mem_cons_of_mem e hc)
      by_cases hcounts : e.significant o = true
      · cases actuals with
        | nil =>
            rcases List.mem_cons.mp (by simpa [compareChildren, hcounts] using h) with rfl | hrest
            · exact ⟨Side.description_ne_absent _, rfl⟩
            · exact htail hrest
        | cons a as =>
            rcases List.mem_append.mp (by simpa [compareChildren, hcounts] using h) with
              hfirst | hrest
            · exact hexpected e List.mem_cons_self hfirst
            · exact htail hrest
      · exact htail (by simpa [compareChildren, hcounts] using h)

/-- **Children in any order are shown in pairs.**  Nobody is left alone, so what is
reported as changed has two sides. -/
theorem fits_of_mem_compareUnordered {children actuals : List Node}
    (h : d ∈ compareUnordered path (childTrials o children) (significantChildren o children)
      actuals) : d.Fits (IsRule values) Clash := by
  rw [childTrials_eq_map] at h
  unfold compareUnordered at h
  split at h
  · rw [List.mem_singleton.mp h]
    exact fits_of_descriptions ..
  · next hlength =>
    obtain ⟨⟨i, j⟩, hpair, rfl⟩ := List.mem_map.mp h
    have hsame : ((significantChildren o children).map (compare o)).length = actuals.length := by
      rw [List.length_map]
      exact not_not.mp hlength
    obtain ⟨-, k, rfl, hk⟩ := Pairing.exists_partner_of_mem_unmatched hsame hpair
    refine ⟨Side.description_ne_absent _, ?_⟩
    simp [hk]

/-- Between nodes of different kinds nothing but their kinds is reported. -/
theorem fits_of_kindName_ne {expected actual : Node}
    (hkind : expected.kindName ≠ actual.kindName) (h : d ∈ compare o expected actual) :
    d.Fits (IsRule values) Clash := by
  cases hlooked : expected.admitsAny o with
  | true =>
      rw [compare_of_admitsAny hlooked] at h
      exact absurd h List.not_mem_nil
  | false =>
      rw [compare_of_kindName_ne hlooked hkind] at h
      rw [List.mem_singleton.mp h]
      exact ⟨Side.description_ne_absent _, Side.description_ne_absent _, expected, actual, rfl,
        rfl, hkind⟩

/-- Elements have fitting differences if their children have. -/
theorem fits_of_mem_compare_elements {other tag otherTag : String}
    {attributes others : List (String × Value)} {children otherChildren : List Node}
    (hchildren : ∀ c ∈ children, ∀ {d a}, d ∈ compare o c a →
      d.Fits (IsRule c.valuePaths) Clash)
    (h : d ∈ compare o (.element path tag attributes children)
      (.element other otherTag others otherChildren)) :
    d.Fits (IsRule (Node.element path tag attributes children).valuePaths) Clash := by
  have hplaces : ∀ name v, (name, v) ∈ attributes →
      (attributePath path name, v) ∈ (Node.element path tag attributes children).valuePaths :=
    fun name v hv => List.mem_append_left _ (List.mem_map.mpr ⟨(name, v), hv, rfl⟩)
  have hbelow : ∀ c ∈ children, ∀ {d a}, d ∈ compare o c a →
      d.Fits (IsRule (Node.element path tag attributes children).valuePaths) Clash :=
    fun c hc _ _ hd => (hchildren c hc hd).mono (IsRule.mono
      (List.Subset.trans (Node.valuePaths_subset_list hc) (List.subset_append_right _ _)))
  cases hcounts : o.ignoresElement tag with
  | true =>
      rw [compare_of_ignoresElement hcounts] at h
      exact absurd h List.not_mem_nil
  | false =>
      cases htag : Text.sameName tag otherTag with
      | false =>
          rw [compare_elements_of_tag_ne hcounts htag] at h
          rw [List.mem_singleton.mp h]
          exact fits_of_descriptions ..
      | true =>
          rw [compare_elements hcounts htag, List.mem_append, List.mem_append] at h
          rcases h with (hattributes | hadded) | hparts
          · exact fits_of_mem_compareAttributes hplaces hattributes
          · exact fits_of_mem_addedAttributes hadded
          · split at hparts
            · exact fits_of_mem_compareUnordered hparts
            · exact fits_of_mem_compareChildren hbelow hparts

/-- **Pages.**  Whatever is reported between two pages has sides that fit its kind. -/
theorem fits_of_mem_compare {expected actual : Node} (h : d ∈ compare o expected actual) :
    d.Fits (IsRule expected.valuePaths) Clash := by
  induction expected generalizing actual d with
  | element path tag attributes children ih =>
      cases actual with
      | element => exact fits_of_mem_compare_elements ih h
      | _ => exact fits_of_kindName_ne (by simp [Node.kindName]) h
  | text path v =>
      cases actual with
      | text other w =>
          rw [compare_texts] at h
          exact fits_of_mem_compareText (List.mem_singleton_self _) h
      | _ => exact fits_of_kindName_ne (by simp [Node.kindName]) h
  | comment path s =>
      cases actual with
      | comment other t =>
          rw [compare_comments] at h
          rw [eq_of_mem_guarded h]
          exact fits_of_texts ..
      | _ => exact fits_of_kindName_ne (by simp [Node.kindName]) h
  | doctype path s =>
      cases actual with
      | doctype other t =>
          rw [compare_doctypes] at h
          rw [eq_of_mem_guarded h]
          exact fits_of_texts ..
      | _ => exact fits_of_kindName_ne (by simp [Node.kindName]) h

end Html

/-! ## Both formats -/

/-- **Every difference has sides that fit its kind**, whichever documents are
compared under whatever options: a failure shows the matcher or the template that
stands in the expected document at its path. -/
theorem sides_fit_kind :
    (∀ (o : Json.Options) (expected : Json.Value) (path : String) (actual : Json.Value),
      ∀ d ∈ Json.compare o expected path actual,
        d.Fits (Json.IsRule (expected.matcherPaths path)) Json.Clash) ∧
    (∀ (o : Html.Options) (expected actual : Html.Node),
      ∀ d ∈ Html.compare o expected actual,
        d.Fits (Html.IsRule expected.valuePaths) Html.Clash) :=
  ⟨fun _ _ _ _ _ h => Json.fits_of_reported (Json.reported_of_mem_compare h),
    fun _ _ _ _ h => Html.fits_of_mem_compare h⟩

/-- Items and children in any order, of which what is left over on both sides is shown as
changed, with two sides; and an attribute whose matcher fails. -/
theorem sides_fit_kind_leftover :
    let items : Json.Value := .array [.int 1, .int 2]
    let item := Json.changed "$[0]" (.int 1) (.int 3)
    let page : Html.Node :=
      .element "p" "p" [("id", .matcher .anyInt)] [.element "p > b" "b" [] []]
    let child : Difference := ⟨"p > b", .changed, .description "<b>", .description "<i>"⟩
    let failed : Difference := ⟨"p @id", .matcherFailed,
      .description Matcher.anyInt.describe, Html.textSide "x"⟩
    let other : Html.Node :=
      .element "p" "p" [("id", .literal "x")] [.element "p > i" "i" [] []]
    Json.compare { ignoreArrayOrder := true } items "$" (.array [.int 2, .int 3]) = [item] ∧
      item.Fits (Json.IsRule (items.matcherPaths "$")) Json.Clash ∧
      Html.compare { ignoreChildOrder := true } page other = [failed, child] ∧
      child.Fits (Html.IsRule page.valuePaths) Html.Clash ∧
      failed.Fits (Html.IsRule page.valuePaths) Html.Clash := by
  intro items item page child failed other
  obtain ⟨hjson, hhtml⟩ := sides_fit_kind
  have hitem : Json.compare { ignoreArrayOrder := true } items "$" (.array [.int 2, .int 3]) =
      [item] := by rfl
  have hpage : Html.compare { ignoreChildOrder := true } page other = [failed, child] := by
    rfl
  exact ⟨hitem, hjson _ _ _ _ _ (by rw [hitem]; exact List.mem_singleton_self _), hpage,
    hhtml _ _ other _ (by rw [hpage]; simp), hhtml _ _ other _ (by rw [hpage]; simp)⟩

end Expectation
