import Expectation.Html.Options
import Expectation.Proofs.Html.Leftovers
import Expectation.Proofs.Text.Digits
import Expectation.Proofs.Text.Pieces

/-!
# Paths that name one element

Options and reports name an element of a page by a text.  The text is made when the page is
turned into nodes: the way to the element above, and the tag, with a number if siblings before it
have the same tag.  The tags of the siblings passed are kept in a list on the way.

`Placed` says what the path of a node is by the node's own place among the children of the node
above it, for any such place.  From there on nothing is known of how paths are made.  Tags with
neither an opening bracket nor an angle can be read off a path, and their numbers too, so that
what the options find covered by the path of one sibling is not covered by that of another.

## Main results

* `isOk_wrap`: a page becomes nodes exactly if its texts and attribute values can be resolved.
* `placed_of_node`: where the nodes of a page are.
* `eq_of_covers`: a path is covered by one sibling only.
* `nodup_elementPaths`: elements have different paths.
* `wrap_places`: how a page becomes nodes.
-/

namespace Expectation.Html

open Html.Options (covers)

/-! ## Places -/

/-- An element with the given tag. -/
def Tree.hasTag (tag : String) : Tree → Bool
  | .element other _ _ => other == tag
  | _ => false

/-- A step put behind the path of the node above, or alone if there is none. -/
def joined (above : Option String) (separator step : String) : String :=
  above.elim step fun path => path ++ separator ++ step

/-- A tag with the number of siblings before that have it, if there are any. -/
def numbered (tag : String) (k : Nat) : String :=
  if k = 0 then tag else tag ++ "[" ++ toString k ++ "]"

/-- Where the node of a part of a page is: below the node with the path `above`, if that is not
the page itself, and behind the parts `earlier`. -/
inductive Placed : Option String → List Tree → Tree → Node → Prop
  | element {above : Option String} {earlier children : List Tree} {path tag : String}
      {attributes : List Attribute} {values : List (String × Value)} {nodes : List Node}
      (hpath : path = joined above " > " (numbered tag (earlier.countP (Tree.hasTag tag))))
      (hlength : nodes.length = children.length)
      (hchildren : ∀ (i : Nat) t n, children[i]? = some t → nodes[i]? = some n →
        Placed (some path) (children.take i) t n) :
      Placed above earlier (.element tag attributes children) (.element path tag values nodes)
  | text {above : Option String} {earlier : List Tree} {path raw : String} {v : Value}
      (hpath : path = joined above " " "(text)") :
      Placed above earlier (.text raw) (.text path v)
  | comment {above : Option String} {earlier : List Tree} {path text : String}
      (hpath : path = joined above " " "(comment)") :
      Placed above earlier (.comment text) (.comment path text)
  | doctype {above : Option String} {earlier : List Tree} {name : String} :
      Placed above earlier (.doctype name) (.doctype doctypePath name)

/-- Nodes are those of the parts, one by one, each behind the parts before it. -/
def PlacedAll (above : Option String) (ts : List Tree) (ns : List Node) : Prop :=
  ns.length = ts.length ∧
    ∀ (i : Nat) t n, ts[i]? = some t → ns[i]? = some n → Placed above (ts.take i) t n

/-- A tag that can be read off a path. -/
structure IsPlainTag (tag : String) : Prop where
  ne_empty : tag ≠ ""
  no_bracket : '[' ∉ tag.toList
  no_angle : '>' ∉ tag.toList

/-- All tags in a part of a page can be read off paths. -/
inductive Tree.PlainTags : Tree → Prop
  | element {tag : String} {attributes : List Attribute} {children : List Tree}
      (htag : IsPlainTag tag) (hchildren : ∀ t ∈ children, t.PlainTags) :
      Tree.PlainTags (.element tag attributes children)
  | text {raw : String} : Tree.PlainTags (.text raw)
  | comment {text : String} : Tree.PlainTags (.comment text)
  | doctype {name : String} : Tree.PlainTags (.doctype name)

theorem numbered_ne_empty {tag : String} (h : IsPlainTag tag) (k : Nat) : numbered tag k ≠ "" := by
  unfold numbered
  split
  · exact h.ne_empty
  · exact fun hempty => by simp [String.append_eq_empty_iff] at hempty

theorem joined_ne_empty {above : Option String} {separator step : String} (h : step ≠ "") :
    joined above separator step ≠ "" := by
  cases above with
  | none => exact h
  | some path => exact fun hempty => h (String.append_eq_empty_iff.mp hempty).2

/-! ## Turning pages into nodes -/

section Nodes

variable {ε : Type} {resolve : String → Except ε Value} {seen : List String}

/-- No node has an empty path, so an empty text stands for no node above. -/
theorem elementPath_eq_joined {above : Option String} (h : above ≠ some "") (tag : String)
    (k : Nat) : elementPath (above.getD "") tag k = joined above " > " (numbered tag k) := by
  cases above with
  | none => rfl
  | some path =>
      have hpath : path.isEmpty = false := by simpa using h
      simp [elementPath, joined, numbered, hpath]

theorem suffixedPath_eq_joined {above : Option String} (h : above ≠ some "") (suffix : String) :
    suffixedPath (above.getD "") suffix = joined above " " suffix := by
  cases above with
  | none => rfl
  | some path =>
      have hpath : path.isEmpty = false := by simpa using h
      simp [suffixedPath, joined, hpath]

theorem count_passed (t : Tree) (seen : List String) (tag : String) :
    (t.passed seen).count tag = seen.count tag + if t.hasTag tag then 1 else 0 := by
  cases t with
  | element other attributes children => simp [Tree.passed, Tree.hasTag, List.count_cons]
  | _ => rfl

/-- **Nodes are made one by one**, each behind the tags of the parts before it. -/
theorem exists_node_of_nodes {parent : String} {ts : List Tree} {ns : List Node}
    (h : Tree.nodes resolve parent seen ts = .ok ns) :
    ns.length = ts.length ∧ ∀ (i : Nat) t n, ts[i]? = some t → ns[i]? = some n →
      ∃ passed, Tree.node resolve parent passed t = .ok n ∧
        ∀ tag, passed.count tag = seen.count tag + (ts.take i).countP (Tree.hasTag tag) := by
  induction ts generalizing seen ns with
  | nil =>
      cases h
      exact ⟨rfl, fun _ _ _ ht => nomatch ht⟩
  | cons t ts ih =>
      rw [Tree.nodes] at h
      split at h
      · contradiction
      · next n hn =>
        obtain ⟨ns, hns, rfl⟩ := Json.exists_ok_of_map h
        obtain ⟨hlength, hnodes⟩ := ih hns
        refine ⟨congrArg (· + 1) hlength, fun i u m hu hm => ?_⟩
        cases i with
        | zero =>
            obtain rfl := Option.some.inj hu
            obtain rfl := Option.some.inj hm
            exact ⟨seen, hn, fun _ => rfl⟩
        | succ i =>
            obtain ⟨passed, hnode, hcount⟩ := hnodes i u m hu hm
            refine ⟨passed, hnode, fun tag => ?_⟩
            rw [hcount, count_passed, List.take_succ_cons, List.countP_cons]
            omega

/-- **Where the node of a part of a page is.** -/
theorem placed_of_node {t : Tree} (htags : t.PlainTags) {above : Option String}
    (habove : above ≠ some "") {earlier : List Tree}
    (hseen : ∀ tag, seen.count tag = earlier.countP (Tree.hasTag tag)) {n : Node}
    (h : Tree.node resolve (above.getD "") seen t = .ok n) : Placed above earlier t n := by
  induction htags generalizing above seen earlier n with
  | @element tag attributes children htag _ ih =>
      rw [Tree.node] at h
      split at h
      · contradiction
      · next values _ =>
        obtain ⟨ns, hns, rfl⟩ := Json.exists_ok_of_map h
        rw [elementPath_eq_joined habove, hseen] at hns ⊢
        obtain ⟨hlength, hnodes⟩ := exists_node_of_nodes hns
        refine .element rfl hlength fun i t n ht hn => ?_
        obtain ⟨passed, hnode, hcount⟩ := hnodes i t n ht hn
        have hpath : some (joined above " > " (numbered tag (earlier.countP (Tree.hasTag tag)))) ≠
            some "" := fun heq => joined_ne_empty (numbered_ne_empty htag _) (Option.some.inj heq)
        exact ih t (List.mem_of_getElem? ht) hpath (by simpa using hcount) hnode
  | text =>
      rw [Tree.node] at h
      obtain ⟨v, -, rfl⟩ := Json.exists_ok_of_map h
      exact .text (suffixedPath_eq_joined habove _)
  | comment =>
      rw [Tree.node] at h
      cases h
      exact .comment (suffixedPath_eq_joined habove _)
  | doctype =>
      rw [Tree.node] at h
      cases h
      exact .doctype

end Nodes

/-! ## Steps read off a path -/

/-- What is put behind a tag to number it. -/
def numberText (k : Nat) : List Char :=
  if k = 0 then [] else '[' :: (Nat.toDigits 10 k ++ [']'])

theorem toList_numbered (tag : String) (k : Nat) :
    (numbered tag k).toList = tag.toList ++ numberText k := by
  unfold numbered numberText
  split <;> simp

theorem numberText_injective {j k : Nat} (h : numberText j = numberText k) : j = k := by
  unfold numberText at h
  split at h
  · next hj =>
    split at h
    · next hk => exact hj.trans hk.symm
    · cases h
  · split at h
    · cases h
    · exact Text.toDigits_injective (List.append_cancel_right (List.cons.inj h).2)

theorem head?_numberText (k : Nat) : ∀ c ∈ (numberText k).head?, c = '[' := by
  unfold numberText
  split <;> simp

/-- **Tag and number can be read off a step.** -/
theorem numbered_inj {tag tag' : String} (htag : IsPlainTag tag) (htag' : IsPlainTag tag')
    {k k' : Nat} (h : (numbered tag k).toList = (numbered tag' k').toList) :
    tag = tag' ∧ k = k' := by
  have hinside : ∀ {t : String}, IsPlainTag t → ∀ c ∈ t.toList, c ≠ '[' := by
    rintro t ht c hc rfl
    exact ht.no_bracket hc
  rw [toList_numbered, toList_numbered] at h
  obtain ⟨htags, hnumbers⟩ := Text.append_inj_of_alphabet (p := (· ≠ '[')) (hinside htag)
    (hinside htag') (fun c hc => not_not.mpr (head?_numberText k c hc))
    (fun c hc => not_not.mpr (head?_numberText k' c hc)) h
  exact ⟨String.toList_inj.mp htags, numberText_injective hnumbers⟩

theorem no_angle_numbered {tag : String} (htag : IsPlainTag tag) (k : Nat) :
    '>' ∉ (numbered tag k).toList := by
  have hdigits : '>' ∉ Nat.toDigits 10 k := fun h =>
    absurd (Text.isDigit_of_mem_toDigits h) (by decide)
  rw [toList_numbered]
  unfold numberText
  split <;> simp [htag.no_angle, hdigits]

/-- What may stand behind the path of an element in a path that it covers. -/
def GoesOn (rest : List Char) : Prop := rest = [] ∨ ∃ more, rest = ' ' :: '>' :: ' ' :: more

theorem GoesOn.append {rest rest' : List Char} (h : GoesOn rest) (h' : GoesOn rest') :
    GoesOn (rest ++ rest') := by
  rcases h with rfl | ⟨more, rfl⟩
  · exact h'
  · exact .inr ⟨more ++ rest', rfl⟩

/-- **The first step can be read off a path**, however it goes on. -/
theorem step_eq_of_append {a b rest rest' : List Char} (ha : '>' ∉ a) (hb : '>' ∉ b)
    (hrest : GoesOn rest) (hrest' : GoesOn rest') (h : a ++ rest = b ++ rest') : a = b := by
  have hends : ∀ {c d more : List Char}, '>' ∉ c → c ≠ d ++ ' ' :: '>' :: ' ' :: more := by
    rintro c d more hc rfl
    exact hc (by simp)
  rcases hrest with rfl | ⟨more, rfl⟩
  · rcases hrest' with rfl | ⟨more', rfl⟩
    · simpa using h
    · exact absurd (by simpa using h) (hends ha)
  · rcases hrest' with rfl | ⟨more', rfl⟩
    · exact absurd (by simpa using h.symm) (hends hb)
    · -- the blank in front of the angle belongs to the text read up to the angle
      have hblank : ∀ {c : List Char}, '>' ∉ c → ∀ d ∈ c ++ [' '], d ≠ '>' := by
        rintro c hc d hd rfl
        exact hc (by simpa using hd)
      have hangle : (a ++ [' ']) ++ '>' :: ' ' :: more = (b ++ [' ']) ++ '>' :: ' ' :: more' := by
        simpa using h
      have hfront := (Text.append_inj_of_alphabet (p := (· ≠ '>')) (hblank ha) (hblank hb)
        (by simp) (by simp) hangle).1
      exact List.append_cancel_right hfront

/-! ## Covered paths -/

theorem covers_iff_exists {entry path : String} :
    covers entry path = true ↔ ∃ rest, path.toList = entry.toList ++ rest ∧ GoesOn rest := by
  unfold covers
  rw [Bool.or_eq_true, Bool.and_eq_true, beq_iff_eq, List.isPrefixOf_iff_prefix]
  constructor
  · rintro (rfl | ⟨⟨rest, hrest⟩, hnext⟩)
    · exact ⟨[], (List.append_nil _).symm, .inl rfl⟩
    · rw [← hrest, List.drop_left, List.isPrefixOf_iff_prefix] at hnext
      obtain ⟨more, hmore⟩ := hnext
      exact ⟨rest, hrest.symm, .inr ⟨more, hmore.symm⟩⟩
  · rintro ⟨rest, hpath, rfl | ⟨more, rfl⟩⟩
    · exact .inl (String.toList_inj.mp (by rw [hpath, List.append_nil]))
    · refine .inr ⟨⟨_, hpath.symm⟩, ?_⟩
      rw [hpath, List.drop_left]
      rfl

theorem covers_refl (path : String) : covers path path = true :=
  covers_iff_exists.mpr ⟨[], (List.append_nil _).symm, .inl rfl⟩

theorem covers_trans {a b c : String} (hab : covers a b = true) (hbc : covers b c = true) :
    covers a c = true := by
  obtain ⟨rest, hb, hrest⟩ := covers_iff_exists.mp hab
  obtain ⟨rest', hc, hrest'⟩ := covers_iff_exists.mp hbc
  refine covers_iff_exists.mpr ⟨rest ++ rest', ?_, hrest.append hrest'⟩
  rw [hc, hb, List.append_assoc]

theorem toList_joined_some (path step : String) :
    (joined (some path) " > " step).toList = path.toList ++ ' ' :: '>' :: ' ' :: step.toList := by
  simp [joined]

theorem covers_joined (path step : String) : covers path (joined (some path) " > " step) = true :=
  covers_iff_exists.mpr ⟨_, toList_joined_some path step, .inr ⟨step.toList, rfl⟩⟩

/-- An element is not below itself. -/
theorem not_covers_joined (path step : String) :
    covers (joined (some path) " > " step) path = false := by
  rw [Bool.eq_false_iff]
  intro h
  obtain ⟨rest, hpath, -⟩ := covers_iff_exists.mp h
  have hlength := congrArg List.length hpath
  rw [toList_joined_some] at hlength
  simp only [List.length_append, List.length_cons] at hlength
  omega

/-- **A path is covered by one sibling only.** -/
theorem eq_of_covers {above : Option String} {tag tag' : String} (htag : IsPlainTag tag)
    (htag' : IsPlainTag tag') {k k' : Nat} {x : String}
    (h : covers (joined above " > " (numbered tag k)) x = true)
    (h' : covers (joined above " > " (numbered tag' k')) x = true) : tag = tag' ∧ k = k' := by
  obtain ⟨rest, hx, hrest⟩ := covers_iff_exists.mp h
  obtain ⟨rest', hx', hrest'⟩ := covers_iff_exists.mp h'
  have hsteps : (numbered tag k).toList ++ rest = (numbered tag' k').toList ++ rest' := by
    cases above with
    | none => exact hx.symm.trans hx'
    | some path =>
        rw [hx, toList_joined_some, toList_joined_some] at hx'
        simpa using hx'
  exact numbered_inj htag htag' (step_eq_of_append (no_angle_numbered htag k)
    (no_angle_numbered htag' k') hrest hrest' hsteps)

/-! ## Elements of a page -/

/-- The path of an element. -/
def Node.elementPath? : Node → Option String
  | .element path _ _ _ => some path
  | _ => none

/-- The paths of the elements among nodes and below them. -/
def elementPaths (ns : List Node) : List String := (Node.allOf ns).filterMap Node.elementPath?

/-- The paths of the elements in a node. -/
def Node.elementPaths (n : Node) : List String := n.all.filterMap Node.elementPath?

theorem elementPaths_eq_flatMap (ns : List Node) :
    elementPaths ns = ns.flatMap Node.elementPaths := by
  induction ns with
  | nil => rfl
  | cons n ns ih =>
      rw [List.flatMap_cons, ← ih]
      exact List.filterMap_append

theorem Node.elementPaths_element (path tag : String) (attributes : List (String × Value))
    (children : List Node) : (Node.element path tag attributes children).elementPaths =
      path :: Html.elementPaths children := rfl

/-- The elements in a node are covered by its path, and no two have one path. -/
structure Node.Apart (n : Node) : Prop where
  covered : ∀ x ∈ n.elementPaths, covers n.path x = true
  nodup : n.elementPaths.Nodup

/-- A node without elements below it. -/
theorem Node.apart_of_elementPaths_eq_nil {n : Node} (h : n.elementPaths = []) : n.Apart := by
  constructor <;> simp [h]

/-- A node with elements is an element itself, and its path is that of its place. -/
theorem Placed.exists_joined {above : Option String} {earlier : List Tree} {t : Tree} {n : Node}
    (h : Placed above earlier t n) (hplain : t.PlainTags) {x : String} (hx : x ∈ n.elementPaths) :
    ∃ tag, IsPlainTag tag ∧ t.hasTag tag = true ∧
      n.path = joined above " > " (numbered tag (earlier.countP (Tree.hasTag tag))) := by
  cases h with
  | @element _ _ children path tag attributes values nodes hpath _ _ =>
      cases hplain with
      | element htag _ => exact ⟨tag, htag, by simp [Tree.hasTag], hpath⟩
  | _ => exact absurd hx List.not_mem_nil

namespace PlacedAll

variable {above : Option String} {ts : List Tree} {ns : List Node}

theorem exists_of_mem (h : PlacedAll above ts ns) {n : Node} (hn : n ∈ ns) :
    ∃ i, ∃ t ∈ ts, Placed above (ts.take i) t n := by
  obtain ⟨i, hi, rfl⟩ := List.mem_iff_getElem.mp hn
  have hi' : i < ts.length := h.1 ▸ hi
  exact ⟨i, ts[i], List.getElem_mem hi',
    h.2 i _ _ (List.getElem?_eq_getElem hi') (List.getElem?_eq_getElem hi)⟩

/-- The elements among nodes and below them are covered by steps from the node above. -/
theorem exists_covers (h : PlacedAll above ts ns) (hplain : ∀ t ∈ ts, t.PlainTags)
    (hapart : ∀ n ∈ ns, n.Apart) {x : String} (hx : x ∈ elementPaths ns) :
    ∃ step, covers (joined above " > " step) x = true := by
  rw [elementPaths_eq_flatMap] at hx
  obtain ⟨n, hn, hxn⟩ := List.mem_flatMap.mp hx
  obtain ⟨i, t, ht, hplaced⟩ := h.exists_of_mem hn
  obtain ⟨tag, -, -, hpath⟩ := hplaced.exists_joined (hplain t ht) hxn
  exact ⟨_, hpath ▸ (hapart n hn).covered x hxn⟩

/-- **Elements of siblings have different paths**, if those of each one have. -/
theorem nodup (h : PlacedAll above ts ns) (hplain : ∀ t ∈ ts, t.PlainTags)
    (hapart : ∀ n ∈ ns, n.Apart) : (elementPaths ns).Nodup := by
  rw [elementPaths_eq_flatMap]
  refine List.pairwise_flatMap.mpr ⟨fun n hn => (hapart n hn).nodup, ?_⟩
  refine List.pairwise_iff_getElem.mpr fun i j hi hj hij => ?_
  rintro x hx _ hy rfl
  obtain ⟨hlength, hplaced⟩ := h
  have hi' : i < ts.length := hlength ▸ hi
  have hj' : j < ts.length := hlength ▸ hj
  obtain ⟨tag, htag, hhas, hpath⟩ := (hplaced i ts[i] ns[i] (List.getElem?_eq_getElem hi')
    (List.getElem?_eq_getElem hi)).exists_joined (hplain _ (List.getElem_mem hi')) hx
  obtain ⟨tag', htag', -, hpath'⟩ := (hplaced j ts[j] ns[j] (List.getElem?_eq_getElem hj')
    (List.getElem?_eq_getElem hj)).exists_joined (hplain _ (List.getElem_mem hj')) hy
  have hcovers := (hapart _ (List.getElem_mem hi)).covered x hx
  have hcovers' := (hapart _ (List.getElem_mem hj)).covered x hy
  rw [hpath] at hcovers
  rw [hpath'] at hcovers'
  obtain ⟨rfl, hcount⟩ := eq_of_covers htag htag' hcovers hcovers'
  -- the earlier sibling counts for the later one
  have hmore : (ts.take (i + 1)).countP (Tree.hasTag tag) ≤ (ts.take j).countP (Tree.hasTag tag) :=
    (List.take_sublist_take_left hij).countP_le
  rw [List.take_succ_eq_append_getElem hi', List.countP_append, List.countP_singleton,
    hhas] at hmore
  simp only [if_true] at hmore
  omega

end PlacedAll

/-- **Elements have different paths**, and those below one are covered by it. -/
theorem apart_of_placed {t : Tree} (hplain : t.PlainTags) {above : Option String}
    {earlier : List Tree} {n : Node} (h : Placed above earlier t n) : n.Apart := by
  induction hplain generalizing above earlier n with
  | element _ hchildren ih =>
      cases h with
      | @element _ _ _ path _ _ values nodes _ hlength hplaced =>
          have hall : PlacedAll (some path) _ nodes := ⟨hlength, hplaced⟩
          have hapart : ∀ n ∈ nodes, n.Apart := by
            intro n hn
            obtain ⟨i, t, ht, hn⟩ := hall.exists_of_mem hn
            exact ih t ht hn
          have hbelow : ∀ x ∈ elementPaths nodes, covers path x = true ∧ x ≠ path := by
            intro x hx
            obtain ⟨step, hstep⟩ := hall.exists_covers hchildren hapart hx
            refine ⟨covers_trans (covers_joined path step) hstep, ?_⟩
            rintro rfl
            exact absurd hstep (by simp [not_covers_joined])
          constructor
          · rw [Node.elementPaths_element]
            exact List.forall_mem_cons.mpr ⟨covers_refl path, fun x hx => (hbelow x hx).1⟩
          · rw [Node.elementPaths_element]
            exact List.nodup_cons.mpr
              ⟨fun hmem => (hbelow path hmem).2 rfl, hall.nodup hchildren hapart⟩
  | _ =>
      cases h
      exact Node.apart_of_elementPaths_eq_nil rfl

/-- **Elements of a page have different paths.** -/
theorem nodup_elementPaths {above : Option String} {ts : List Tree} {ns : List Node}
    (h : PlacedAll above ts ns) (hplain : ∀ t ∈ ts, t.PlainTags) : (elementPaths ns).Nodup := by
  refine h.nodup hplain fun n hn => ?_
  obtain ⟨i, t, ht, hplaced⟩ := h.exists_of_mem hn
  exact apart_of_placed (hplain t ht) hplaced

/-! ## Texts and attribute values -/

mutual

/-- The texts and attribute values of a part of a page. -/
def Tree.raws : Tree → List String
  | .element _ attributes children => attributes.map Attribute.value ++ Tree.rawsOf children
  | .text raw => [raw]
  | .comment _ => []
  | .doctype _ => []

/-- The texts and attribute values of several parts. -/
def Tree.rawsOf : List Tree → List String
  | [] => []
  | t :: ts => t.raws ++ Tree.rawsOf ts

end

section Success

variable {ε : Type} {resolve : String → Except ε Value}

/-- Whether all of some texts can be resolved. -/
def resolvesAll (resolve : String → Except ε Value) (raws : List String) : Bool :=
  raws.all fun raw => (resolve raw).isOk

theorem isOk_map {α β : Type} (f : α → β) (x : Except ε α) : (x.map f).isOk = x.isOk := by
  cases x <;> rfl

theorem isOk_resolveAttributes (as : List Attribute) :
    (resolveAttributes resolve as).isOk = resolvesAll resolve (as.map Attribute.value) := by
  induction as with
  | nil => rfl
  | cons a as ih =>
      rw [resolveAttributes, List.map_cons, resolvesAll, List.all_cons, ← resolvesAll, ← ih]
      cases resolve a.value with
      | error e => rfl
      | ok v => exact isOk_map _ _

mutual

theorem isOk_node (parent : String) (seen : List String) (t : Tree) :
    (Tree.node resolve parent seen t).isOk = resolvesAll resolve t.raws := by
  cases t with
  | element tag attributes children =>
      rw [Tree.node, Tree.raws, resolvesAll, List.all_append, ← resolvesAll, ← resolvesAll,
        ← isOk_resolveAttributes,
        ← isOk_nodes (elementPath parent tag (seen.count tag)) [] children]
      cases resolveAttributes resolve attributes with
      | error e => rfl
      | ok values => exact isOk_map _ _
  | text raw =>
      rw [Tree.node, isOk_map]
      simp [Tree.raws, resolvesAll]
  | comment text => rfl
  | doctype name => rfl

theorem isOk_nodes (parent : String) (seen : List String) (ts : List Tree) :
    (Tree.nodes resolve parent seen ts).isOk = resolvesAll resolve (Tree.rawsOf ts) := by
  cases ts with
  | nil => rfl
  | cons t ts =>
      rw [Tree.nodes, Tree.rawsOf, resolvesAll, List.all_append, ← resolvesAll, ← resolvesAll,
        ← isOk_node parent seen t, ← isOk_nodes parent (t.passed seen) ts]
      cases Tree.node resolve parent seen t with
      | error e => rfl
      | ok n => exact isOk_map _ _

end

/-- **When a page becomes nodes**: if all its texts and attribute values can be resolved. -/
theorem isOk_wrap (parts : List Tree) :
    (wrap resolve parts).isOk = resolvesAll resolve (Tree.rawsOf parts) :=
  (isOk_map _ _).trans (isOk_nodes "" [] parts)

/-- **How a page becomes nodes.**  It does so if its texts and attribute values can be resolved.
Every part then has its node, and the path of a node is made of that of the element above and,
for an element, of its tag and the number of elements with this tag before it.  No two elements
have one path, as long as tags are not empty and have neither an opening bracket nor an angle. -/
theorem wrap_places (resolve : String → Except ε Value) {parts : List Tree}
    (hplain : ∀ t ∈ parts, t.PlainTags) :
    (wrap resolve parts).isOk = resolvesAll resolve (Tree.rawsOf parts) ∧
      ∀ root, wrap resolve parts = .ok root →
        ∃ nodes, root = .element "" documentTag [] nodes ∧ PlacedAll none parts nodes ∧
          (elementPaths nodes).Nodup := by
  refine ⟨isOk_wrap parts, fun root h => ?_⟩
  obtain ⟨nodes, hnodes, rfl⟩ := Json.exists_ok_of_map h
  obtain ⟨hlength, hnode⟩ := exists_node_of_nodes hnodes
  have hplaced : PlacedAll none parts nodes := by
    refine ⟨hlength, fun i t n ht hn => ?_⟩
    obtain ⟨passed, hmade, hcount⟩ := hnode i t n ht hn
    exact placed_of_node (hplain t (List.mem_of_getElem? ht)) (by simp) (by simpa using hcount)
      hmade
  exact ⟨nodes, rfl, hplaced, nodup_elementPaths hplaced hplain⟩

/-- Items of a list with a text between them, and an item in one of them. -/
theorem wrap_places_list :
    let parts : List Tree := [.element "ul" [] [.element "li" [] [.element "li" [] []],
      .text "and", .element "li" [] [.element "b" [] []]], .comment "end"]
    let resolve : String → Except DocumentError Value := fun raw => .ok (.literal raw)
    (∀ t ∈ parts, t.PlainTags) ∧
      ((wrap resolve parts).isOk = resolvesAll resolve (Tree.rawsOf parts) ∧
        ∀ root, wrap resolve parts = .ok root →
          ∃ nodes, root = .element "" documentTag [] nodes ∧ PlacedAll none parts nodes ∧
            (elementPaths nodes).Nodup) ∧
      (wrap resolve parts).map (fun root => root.elementPaths) =
        .ok ["", "ul", "ul > li", "ul > li > li", "ul > li[1]", "ul > li[1] > b"] := by
  intro parts resolve
  have hul : IsPlainTag "ul" := ⟨by decide, by decide, by decide⟩
  have hli : IsPlainTag "li" := ⟨by decide, by decide, by decide⟩
  have hb : IsPlainTag "b" := ⟨by decide, by decide, by decide⟩
  have hplain : ∀ t ∈ parts, t.PlainTags := by
    refine List.forall_mem_cons.mpr ⟨.element hul ?_, List.forall_mem_singleton.mpr .comment⟩
    refine List.forall_mem_cons.mpr ⟨.element hli (List.forall_mem_singleton.mpr ?_), ?_⟩
    · exact .element hli (List.forall_mem_nil _)
    · refine List.forall_mem_cons.mpr ⟨.text, List.forall_mem_singleton.mpr (.element hli ?_)⟩
      exact List.forall_mem_singleton.mpr (.element hb (List.forall_mem_nil _))
  exact ⟨hplain, wrap_places resolve hplain, by rfl⟩

end Success

end Expectation.Html
