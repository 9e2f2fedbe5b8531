import Expectation.Json.Expected
import Expectation.Proofs.Json.Distinctness
import Expectation.Proofs.Json.Members

/-!
# Matchers by their paths

The matchers of an expected document are collected by one walk over its tree, and the failures of
matchers are reported by another, over two trees at once.  Both put paths together as they go.
The first is put in order by path, where a second matcher at a path would replace the first.

With plain keys no matcher is replaced: each has a place of its own and an entry of its own, and
a failure names the entry of the matcher that failed.

## Main results

* `Value.induct_step`: induction on trees along the steps down.
* `mem_matcherPaths_iff`: what is collected is what stands at the places of the tree.
* `distinctBelow_matcherPaths`: the matchers of a tree have different paths.
* `namesMatchers_positions`: every matcher is named once.
* `exists_matcher_of_reported`: a failure is that of a matcher of the tree.
* `report_paths_and_positions`: reports and positions together.
-/

namespace Expectation.Json

variable {path : String}

/-! ## One step down -/

namespace Value

theorem matcherPathsItems_eq_flatMap (path : String) (i : Nat) (items : List Value) :
    matcherPathsItems path i items =
      (items.zipIdx i).flatMap fun item => item.1.matcherPaths (indexPath path item.2) := by
  induction items generalizing i with
  | nil => rfl
  | cons v vs ih => rw [matcherPathsItems, ih, List.zipIdx_cons, List.flatMap_cons]

theorem matcherPathsMembers_eq_flatMap (path : String) (members : List (String × Value)) :
    matcherPathsMembers path members =
      members.flatMap fun m => m.2.matcherPaths (keyPath path m.1) := by
  induction members with
  | nil => rfl
  | cons m ms ih => rw [matcherPathsMembers, ih, List.flatMap_cons]

/-- Induction on trees along the steps down. -/
theorem induct_step {motive : Value → Prop}
    (h : ∀ v, (∀ s w, v.step? s = some w → motive w) → motive v) (v : Value) : motive v := by
  induction v with
  | array items ih =>
      refine h _ fun s w hw => ?_
      cases s with
      | key k => cases hw
      | index i => exact ih w (List.mem_of_getElem? hw)
  | object members ih =>
      refine h _ fun s w hw => ?_
      cases s with
      | key k => exact ih k w (mem_of_lookup_eq_some hw)
      | index i => cases hw
  | _ => exact h _ nofun

theorem Canonical.step? {v w : Value} {s : Step} (h : v.Canonical) (hw : v.step? s = some w) :
    w.Canonical := by
  cases v with
  | array items =>
      cases s with
      | key k => cases hw
      | index i => exact h.items w (List.mem_of_getElem? hw)
  | object members =>
      cases s with
      | key k => exact h.members k w (mem_of_lookup_eq_some hw)
      | index i => cases hw
  | _ => cases hw

/-- A matcher in a value that is none itself is behind a step. -/
theorem at?_eq_matcher_iff {v : Value} (h : v.matcher? = none) {q : Place} {m : Matcher} :
    v.at? q = some (.matcher m) ↔
      ∃ s w rest, q = s :: rest ∧ v.step? s = some w ∧ w.at? rest = some (.matcher m) := by
  constructor
  · intro hq
    cases q with
    | nil =>
        obtain rfl : v = .matcher m := Option.some.inj hq
        cases h
    | cons s rest =>
        obtain ⟨w, hw, hrest⟩ := Option.bind_eq_some_iff.mp (at?_cons v s rest ▸ hq)
        exact ⟨s, w, rest, rfl, hw, hrest⟩
  · rintro ⟨s, w, rest, rfl, hw, hrest⟩
    exact (at?_cons_of_step? hw rest).trans hrest

/-- In a value that is no matcher itself, the matchers one step down are collected. -/
theorem mem_matcherPaths_step_iff {v : Value} (hcanonical : v.Canonical) (h : v.matcher? = none)
    {entry : String × Matcher} :
    entry ∈ v.matcherPaths path ↔
      ∃ s w, v.step? s = some w ∧ entry ∈ w.matcherPaths (s.extend path) := by
  cases v with
  | matcher m => cases h
  | array items =>
      rw [matcherPaths, matcherPathsItems_eq_flatMap, List.mem_flatMap]
      constructor
      · rintro ⟨⟨w, i⟩, hitem, hentry⟩
        exact ⟨.index i, w, List.mk_mem_zipIdx_iff_getElem?.mp hitem, hentry⟩
      · rintro ⟨s, w, hw, hentry⟩
        cases s with
        | key k => cases hw
        | index i => exact ⟨(w, i), List.mk_mem_zipIdx_iff_getElem?.mpr hw, hentry⟩
  | object members =>
      rw [matcherPaths, matcherPathsMembers_eq_flatMap, List.mem_flatMap]
      constructor
      · rintro ⟨⟨k, w⟩, hmem, hentry⟩
        exact ⟨.key k, w, lookup_eq_some_of_mem hcanonical.ascending hmem, hentry⟩
      · rintro ⟨s, w, hw, hentry⟩
        cases s with
        | key k => exact ⟨(k, w), mem_of_lookup_eq_some hw, hentry⟩
        | index i => cases hw
  | _ => exact iff_of_false List.not_mem_nil nofun

end Value

/-! ## What is collected -/

/-- **What is collected** are the matchers at the places of the tree, with the paths of these. -/
theorem mem_matcherPaths_iff {v : Value} (hcanonical : v.Canonical) {x : String} {m : Matcher} :
    (x, m) ∈ v.matcherPaths path ↔
      ∃ q : Place, v.at? q = some (.matcher m) ∧ q.render path = x := by
  induction v using Value.induct_step generalizing path with
  | h v ih =>
    cases hv : v.matcher? with
    | some m' =>
        obtain rfl : v = .matcher m' := by cases v <;> simp_all [Value.matcher?]
        constructor
        · intro h
          obtain ⟨rfl, rfl⟩ := Prod.mk.inj (List.mem_singleton.mp h)
          exact ⟨[], rfl, rfl⟩
        · rintro ⟨q, hq, rfl⟩
          cases q with
          | nil =>
              obtain rfl := Value.matcher.inj (Option.some.inj hq)
              exact List.mem_singleton_self _
          | cons s q => cases hq
    | none =>
        rw [Value.mem_matcherPaths_step_iff hcanonical hv]
        constructor
        · rintro ⟨s, w, hw, hx⟩
          obtain ⟨q, hq, rfl⟩ := (ih s w hw (hcanonical.step? hw)).mp hx
          exact ⟨s :: q, (Value.at?_cons_of_step? hw q).trans hq, rfl⟩
        · rintro ⟨q, hq, rfl⟩
          obtain ⟨s, w, rest, rfl, hw, hrest⟩ := (Value.at?_eq_matcher_iff hv).mp hq
          exact ⟨s, w, hw, (ih s w hw (hcanonical.step? hw)).mpr ⟨rest, hrest, rfl⟩⟩

/-- **The matchers of a tree have different paths.** -/
theorem distinctBelow_matcherPaths {v : Value} (hcanonical : v.Canonical) (hkeys : v.PlainKeys) :
    DistinctBelow path ((v.matcherPaths path).map Prod.fst) := by
  induction v generalizing path with
  | matcher m => exact .of_sublist (List.Sublist.refl _)
  | array items ih =>
      rw [Value.matcherPaths, Value.matcherPathsItems_eq_flatMap, List.map_flatMap]
      refine .items Prod.snd ?_ fun item hitem => ?_
      · rw [List.zipIdx_map_snd]
        exact List.nodup_range'
      · have hmem := List.fst_mem_of_mem_zipIdx hitem
        exact ih item.1 hmem (hcanonical.items _ hmem) (hkeys.items _ hmem)
  | object members ih =>
      rw [Value.matcherPaths, Value.matcherPathsMembers_eq_flatMap, List.map_flatMap]
      exact .members hcanonical.ascending hkeys.key fun m hm =>
        ih m.1 m.2 hm (hcanonical.members _ _ hm) (hkeys.members _ _ hm)
  | _ => exact .of_sublist (List.nil_sublist _)

/-- As many matchers are collected as the tree has. -/
theorem length_matcherPaths (v : Value) (path : String) :
    (v.matcherPaths path).length = v.parts.countP fun w => w.matcher?.isSome := by
  induction v generalizing path with
  | array items ih =>
      have hitems : ∀ i, (Value.matcherPathsItems path i items).length =
          (Value.itemParts items).countP fun w => w.matcher?.isSome := by
        induction items with
        | nil => exact fun _ => rfl
        | cons v vs ihs =>
            intro i
            rw [Value.matcherPathsItems, Value.itemParts, List.length_append, List.countP_append,
              ih v List.mem_cons_self, ihs fun w hw => ih w (List.mem_cons_of_mem v hw)]
      rw [Value.matcherPaths, Value.parts, hitems,
        List.countP_cons_of_neg (by simp [Value.matcher?])]
  | object members ih =>
      have hmembers : (Value.matcherPathsMembers path members).length =
          (Value.memberParts members).countP fun w => w.matcher?.isSome := by
        induction members with
        | nil => rfl
        | cons m ms ihs =>
            rw [Value.matcherPathsMembers, Value.memberParts, List.length_append,
              List.countP_append, ih m.1 m.2 List.mem_cons_self,
              ihs fun k w hw => ih k w (List.mem_cons_of_mem m hw)]
      rw [Value.matcherPaths, Value.parts, hmembers,
        List.countP_cons_of_neg (by simp [Value.matcher?])]
  | _ => rfl

/-! ## Positions -/

/-- A list names every matcher of a tree once: at the path of each place with a matcher stands
the description of that matcher, each entry is of one such place only, and there are as many
entries as the tree has matchers. -/
structure NamesMatchers (root : Value) (positions : List (String × String)) : Prop where
  named : ∀ (q : Place) (m : Matcher), root.at? q = some (.matcher m) →
    lookup (q.render rootPath) positions = some m.describe
  unique : ∀ entry ∈ positions, ∃! q : Place,
    q.render rootPath = entry.1 ∧ ∃ m, root.at? q = some (.matcher m) ∧ entry.2 = m.describe
  length_eq : positions.length = root.parts.countP fun w => w.matcher?.isSome

/-- **Every matcher is named once.** -/
theorem namesMatchers_positions {e : Expected} (hcanonical : e.root.Canonical)
    (hkeys : e.root.PlainKeys) : NamesMatchers e.root e.positions := by
  have hnodup : (((e.root.matcherPaths rootPath).map fun entry =>
      (entry.1, entry.2.describe)).map Prod.fst).Nodup := by
    simpa [Function.comp_def] using (distinctBelow_matcherPaths hcanonical hkeys).nodup
  have hperm : e.positions.Perm ((e.root.matcherPaths rootPath).map fun entry =>
      (entry.1, entry.2.describe)) := perm_ofPairs hnodup
  refine ⟨fun q m hq => ?_, fun entry hentry => ?_, ?_⟩
  · refine lookup_eq_some_of_mem (ascending_ofPairs _) (hperm.mem_iff.mpr ?_)
    exact List.mem_map.mpr ⟨_, (mem_matcherPaths_iff hcanonical).mpr ⟨q, hq, rfl⟩, rfl⟩
  · obtain ⟨⟨x, m⟩, hx, rfl⟩ := List.mem_map.mp (hperm.mem_iff.mp hentry)
    obtain ⟨q, hq, rfl⟩ := (mem_matcherPaths_iff hcanonical).mp hx
    refine ⟨q, ⟨rfl, m, hq, rfl⟩, ?_⟩
    rintro q' ⟨hsame, m', hq', -⟩
    exact render_injective (hkeys.plain_of_at? hq') (hkeys.plain_of_at? hq) hsame
  · rw [hperm.length_eq, List.length_map, length_matcherPaths]

/-! ## Failures -/

/-- **A failure is that of a matcher of the tree**, and shows its description. -/
theorem exists_matcher_of_reported {o : Options} {expected actual : Value} {d : Difference}
    (h : Reported o path expected actual d) (hcanonical : expected.Canonical)
    (hkind : d.kind = .matcherFailed) :
    ∃ (q : Place) (m : Matcher), expected.at? q = some (.matcher m) ∧ q.render path = d.path ∧
      d.expected = .description m.describe := by
  induction h with
  | @rejected path m actual _ => exact ⟨[], m, rfl, rfl, rfl⟩
  | @item path items others i v w d _ _ hv _ _ ih =>
      obtain ⟨q, m, hq, hpath, hshown⟩ :=
        ih (hcanonical.items v (List.mem_of_getElem? hv)) hkind
      have hstep : (Value.array items).step? (.index i) = some v := hv
      exact ⟨.index i :: q, m, (Value.at?_cons_of_step? hstep q).trans hq, hpath, hshown⟩
  | @member path k members others v w d _ hv _ _ ih =>
      obtain ⟨q, m, hq, hpath, hshown⟩ := ih (hcanonical.members k v hv) hkind
      have hstep : (Value.object members).step? (.key k) = some v :=
        lookup_eq_some_of_mem hcanonical.ascending hv
      exact ⟨.key k :: q, m, (Value.at?_cons_of_step? hstep q).trans hq, hpath, hshown⟩
  | _ => cases hkind

/-- **Paths identify the parts of a document.**  Under any options a report on trees with plain
keys has every path once, the positions of an expected document name each of its matchers once,
and where a matcher failed the report shows what the positions say. -/
theorem report_paths_and_positions (o : Options) {e : Expected} {actual : Value}
    (hexpected : e.root.Canonical) (hactual : actual.Canonical) (hkeys : e.root.PlainKeys)
    (hkeys' : actual.PlainKeys) :
    ((compare o e.root rootPath actual).map Difference.path).Nodup ∧
      NamesMatchers e.root e.positions ∧
      ∀ d ∈ compare o e.root rootPath actual, d.kind = .matcherFailed →
        ∃ text, lookup d.path e.positions = some text ∧ d.expected = .description text := by
  have hnames := namesMatchers_positions hexpected hkeys
  refine ⟨(reportsOnce_compare hexpected hactual hkeys hkeys').nodup, hnames, fun d hd hkind => ?_⟩
  obtain ⟨q, m, hq, hpath, hshown⟩ :=
    exists_matcher_of_reported (reported_of_mem_compare hd) hexpected hkind
  exact ⟨m.describe, hpath ▸ hnames.named q m hq, hshown⟩

/-- Two matchers fail and an item is missing, at an empty key and below a key that begins
another. -/
theorem report_paths_and_positions_nested :
    let e : Expected := ⟨.object [("", .array [.matcher .anyInt, .string "x"]),
      ("a", .object [("b", .matcher .anyString)]), ("ab", .matcher .anyBool)], .ofText .value ""⟩
    let actual : Value := .object [("", .array [.string "y"]), ("a", .object [("b", .null)]),
      ("ab", .bool true)]
    e.root.Canonical ∧ actual.Canonical ∧ e.root.PlainKeys ∧ actual.PlainKeys ∧
      (compare {} e.root rootPath actual).map Difference.path = ["$.[0]", "$.[1]", "$.a.b"] ∧
      ((compare {} e.root rootPath actual).map Difference.path).Nodup ∧
      NamesMatchers e.root e.positions ∧
      ∀ d ∈ compare {} e.root rootPath actual, d.kind = .matcherFailed →
        ∃ text, lookup d.path e.positions = some text ∧ d.expected = .description text := by
  intro e actual
  have hexpected : e.root.Canonical :=
    ⟨by decide +kernel, ⟨trivial, trivial, trivial⟩,
      ⟨List.pairwise_singleton _ _, trivial, trivial⟩, trivial, trivial⟩
  have hactual : actual.Canonical :=
    ⟨by decide +kernel, ⟨trivial, trivial⟩,
      ⟨List.pairwise_singleton _ _, trivial, trivial⟩, trivial, trivial⟩
  have hkeys : e.root.PlainKeys := by decide +kernel
  have hkeys' : actual.PlainKeys := by decide +kernel
  exact ⟨hexpected, hactual, hkeys, hkeys', by rfl,
    report_paths_and_positions {} hexpected hactual hkeys hkeys'⟩

end Expectation.Json
