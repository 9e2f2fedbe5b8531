import Expectation.Proofs.Json.Shown

/-!
# What is reported where nothing should be

Values at paths that the options leave out are not compared.  The comparison asks
the options at every value that it comes to and at every member that only one of
two objects has, and an item that is left out matches anything when arrays are
paired.  It does not ask where it runs past the end of the shorter of two arrays
in order: those items are reported whatever the options say.

That is the only way around the options.  `Overhang` describes these differences
by the place at which the two arrays stand, and a place is only come to if nothing
on the way to it is left out.

## Main results

* `mem_compare_of_reaches`: what is found at a place that is come to is reported.
* `overhang_of_mem_compare`: what is reported at a path that is left out.
* `mem_compare_ignored_iff`: exactly the overhanging items are, and nothing is if no
  entry can name an item.
-/

namespace Expectation.Json

variable {o : Options} {path : String} {expected actual : Value} {d : Difference}

/-! ## Places that are come to -/

/-- The comparison of trees that have a path comes to a place: nothing on the way
is left out, the place itself included, and items on the way are met in order. -/
def Options.Reaches (o : Options) : String → Place → Prop
  | path, [] => o.ignores path = false
  | path, .key k :: q => o.ignores path = false ∧ o.Reaches (keyPath path k) q
  | path, .index i :: q =>
    o.ignores path = false ∧ o.unordered path = false ∧ o.Reaches (indexPath path i) q

theorem Options.Reaches.counts {q : Place} (h : o.Reaches path q) : o.ignores path = false := by
  cases q with
  | nil => exact h
  | cons s q =>
      cases s with
      | key k => exact h.1
      | index i => exact h.1

theorem Options.Reaches.counts_render {q : Place} (h : o.Reaches path q) :
    o.ignores (q.render path) = false := by
  induction q generalizing path with
  | nil => exact h
  | cons s q ih =>
      cases s with
      | key k => exact ih h.2
      | index i => exact ih h.2.2

/-- What is found at two items is reported for the arrays. -/
theorem mem_compare_array {items others : List Value} (hcounts : o.ignores path = false)
    (horder : o.unordered path = false) {i : Nat}
    (h : d ∈ stepReport o (indexPath path i) items[i]? others[i]?) :
    d ∈ compare o (.array items) path (.array others) := by
  have hlength : i < max items.length others.length := by
    by_contra hbeyond
    rw [List.getElem?_eq_none (by omega), List.getElem?_eq_none (by omega)] at h
    exact absurd h List.not_mem_nil
  have hrun : d ∈ compareItems o path 0 items others := by
    rw [compareItems_eq_flatMap]
    refine List.mem_flatMap.mpr ⟨i, List.mem_range.mpr hlength, ?_⟩
    rwa [Nat.zero_add]
  rwa [compare_arrays_of_kept hcounts horder]

/-- What is found at two members is reported for the objects. -/
theorem mem_compare_object {members others : List (String × Value)} {k : String} {v w : Value}
    (hcounts : o.ignores path = false) (hv : lookup k members = some v)
    (hw : lookup k others = some w) (h : d ∈ compare o v (keyPath path k) w) :
    d ∈ compare o (.object members) path (.object others) := by
  have hmember := counts_of_mem_compare h
  have hignore : v.matcher?.any Matcher.isIgnore = false := by
    rw [Bool.eq_false_iff, Ne, Value.any_isIgnore_eq_true_iff]
    rintro rfl
    rw [compare_ignore] at h
    exact absurd h List.not_mem_nil
  have hrun : d ∈ compareMembers o path others members := by
    rw [compareMembers_eq_flatMap]
    refine List.mem_flatMap.mpr ⟨(k, v), mem_of_lookup_eq_some hv, ?_⟩
    simpa [memberReport, hmember, hignore, hw] using h
  rw [compare_objects hcounts]
  exact List.mem_append_left _ hrun

/-- **What is found at a place that is come to is reported.** -/
theorem mem_compare_of_reaches {q : Place} (hq : o.Reaches path q) {v w : Value}
    (hv : expected.at? q = some v) (hw : actual.at? q = some w)
    (h : d ∈ compare o v (q.render path) w) : d ∈ compare o expected path actual := by
  induction q generalizing path expected actual with
  | nil =>
      obtain rfl := Option.some.inj hv
      obtain rfl := Option.some.inj hw
      exact h
  | cons s q ih =>
      rw [Value.at?_cons, Option.bind_eq_some_iff] at hv hw
      obtain ⟨v', hv', hv⟩ := hv
      obtain ⟨w', hw', hw⟩ := hw
      cases s with
      | key k =>
          have hinside := ih hq.2 hv hw h
          cases expected with
          | object members =>
              cases actual with
              | object others => exact mem_compare_object hq.1 hv' hw' hinside
              | _ => simp [Value.step?] at hw'
          | _ => simp [Value.step?] at hv'
      | index i =>
          have hinside := ih hq.2.2 hv hw h
          cases expected with
          | array items =>
              cases actual with
              | array others =>
                  refine mem_compare_array (i := i) hq.1 hq.2.1 ?_
                  rw [show items[i]? = some v' from hv', show others[i]? = some w' from hw']
                  exact hinside
              | _ => simp [Value.step?] at hw'
          | _ => simp [Value.step?] at hv'

/-! ## Overhanging items -/

/-- A difference is about an item past the end of the other array: the trees have
arrays at a place that the comparison comes to, and it goes through them in order. -/
inductive Overhang (o : Options) (path : String) (expected actual : Value) :
    Difference → Prop where
  | removed {q : Place} {items others : List Value} {i : Nat} {v : Value}
      (hq : o.Reaches path q) (horder : o.unordered (q.render path) = false)
      (hitems : expected.at? q = some (.array items))
      (hothers : actual.at? q = some (.array others))
      (hv : items[i]? = some v) (hw : others[i]? = none) :
      Overhang o path expected actual (removed (indexPath (q.render path) i) v)
  | added {q : Place} {items others : List Value} {i : Nat} {w : Value}
      (hq : o.Reaches path q) (horder : o.unordered (q.render path) = false)
      (hitems : expected.at? q = some (.array items))
      (hothers : actual.at? q = some (.array others))
      (hv : items[i]? = none) (hw : others[i]? = some w) :
      Overhang o path expected actual (added (indexPath (q.render path) i) w)

namespace Overhang

/-- What overhangs below a step overhangs in the values that the step is taken in. -/
theorem below {s : Step} {v w : Value}
    (hstep : ∀ q, o.Reaches (s.extend path) q → o.Reaches path (s :: q))
    (hv : expected.step? s = some v) (hw : actual.step? s = some w)
    (h : Overhang o (s.extend path) v w d) : Overhang o path expected actual d := by
  cases h with
  | @removed q _ _ i u hq horder hitems hothers hu hnone =>
      refine .removed (q := s :: q) (hstep q hq) horder ?_ ?_ hu hnone
      · simpa [Value.at?_cons, hv] using hitems
      · simpa [Value.at?_cons, hw] using hothers
  | @added q _ _ i u hq horder hitems hothers hnone hu =>
      refine .added (q := s :: q) (hstep q hq) horder ?_ ?_ hnone hu
      · simpa [Value.at?_cons, hv] using hitems
      · simpa [Value.at?_cons, hw] using hothers

/-- **Overhanging items are reported**, left out or not. -/
theorem mem_compare (h : Overhang o path expected actual d) :
    d ∈ compare o expected path actual := by
  cases h with
  | @removed q items others i v hq horder hitems hothers hv hw =>
      refine mem_compare_of_reaches hq hitems hothers
        (mem_compare_array (i := i) hq.counts_render horder ?_)
      rw [hv, hw]
      exact List.mem_cons_self
  | @added q items others i w hq horder hitems hothers hv hw =>
      refine mem_compare_of_reaches hq hitems hothers
        (mem_compare_array (i := i) hq.counts_render horder ?_)
      rw [hv, hw]
      exact List.mem_cons_self

end Overhang

/-! ## Paths that are left out -/

/-- **An item that is left out matches anything**, so in arrays in any order it is
never left over. -/
theorem counts_of_mem_compareUnordered {items others : List Value}
    (hcounts : o.ignores path = false)
    (h : d ∈ compareUnordered path (itemTrials o path 0 items) items others) :
    o.ignores d.path = false := by
  rcases exists_of_mem_compareUnordered h with ⟨-, rfl⟩ | ⟨i, j, v, w, -, -, hitem, rfl⟩
  · exact hcounts
  · exact hitem

/-- A difference at the path of the two values is at no path that is left out. -/
theorem path_ne_of_ignored (h : d ∈ compare o expected path actual)
    (hignored : o.ignores d.path = true) : d.path ≠ path := by
  intro hpath
  rw [hpath, counts_of_mem_compare h] at hignored
  exact absurd hignored (by decide)

/-- In arrays that are gone through in order, what is reported at a path that is
left out overhangs, if that is so for all items. -/
theorem overhang_of_mem_compareItems {items others : List Value}
    (hcounts : o.ignores path = false) (horder : o.unordered path = false)
    (hitems : ∀ (i : Nat) v w, items[i]? = some v → others[i]? = some w →
      d ∈ compare o v (indexPath path i) w → Overhang o (indexPath path i) v w d)
    (h : d ∈ compareItems o path 0 items others) :
    Overhang o path (.array items) (.array others) d := by
  obtain ⟨i, ⟨v, w, hv, hw, hd⟩ | ⟨v, hv, hw, rfl⟩ | ⟨w, hv, hw, rfl⟩⟩ :=
    exists_of_mem_compareItems h
  · have hstep : ∀ q, o.Reaches (indexPath path i) q → o.Reaches path (.index i :: q) :=
      fun q hq => ⟨hcounts, horder, hq⟩
    exact (hitems i v w hv hw hd).below (s := .index i) hstep hv hw
  · exact .removed (q := []) hcounts horder rfl rfl hv hw
  · exact .added (q := []) hcounts horder rfl rfl hv hw

/-- In objects too, and members that only one of them has are not reported there. -/
theorem overhang_of_mem_compareObjects {members others : List (String × Value)}
    (hcounts : o.ignores path = false) (hmembers : (Value.object members).Canonical)
    (hignored : o.ignores d.path = true)
    (hvalues : ∀ k v w, (k, v) ∈ members → lookup k others = some w →
      d ∈ compare o v (keyPath path k) w → Overhang o (keyPath path k) v w d)
    (h : d ∈ compare o (.object members) path (.object others)) :
    Overhang o path (.object members) (.object others) d := by
  rw [compare_objects hcounts] at h
  rcases List.mem_append.mp h with h | h
  · obtain ⟨k, v, hmem, hcounted, ⟨w, hw, hd⟩ | ⟨-, rfl⟩⟩ := exists_of_mem_compareMembers h
    · have hv := lookup_eq_some_of_mem hmembers.ascending hmem
      have hstep : ∀ q, o.Reaches (keyPath path k) q → o.Reaches path (.key k :: q) :=
        fun q hq => ⟨hcounts, hq⟩
      exact (hvalues k v w hmem hw hd).below (s := .key k) hstep hv hw
    · exact absurd (hcounted.symm.trans hignored) (by decide)
  · obtain ⟨k, w, -, hcounted, -, rfl⟩ := exists_of_mem_addedMembers h
    exact absurd (hcounted.symm.trans hignored) (by decide)

/-- **Only overhanging items are reported at paths that are left out.** -/
theorem overhang_of_mem_compare (hexpected : expected.Canonical)
    (h : d ∈ compare o expected path actual) (hignored : o.ignores d.path = true) :
    Overhang o path expected actual d := by
  induction expected generalizing path actual with
  | array items ih =>
      have hcounts := counts_of_mem_compare h
      cases actual with
      | array others =>
          cases horder : o.unordered path with
          | true =>
              rw [compare_arrays_of_unordered hcounts horder] at h
              have hcounted := counts_of_mem_compareUnordered hcounts h
              exact absurd (hcounted.symm.trans hignored) (by decide)
          | false =>
              rw [compare_arrays_of_kept hcounts horder] at h
              refine overhang_of_mem_compareItems hcounts horder ?_ h
              intro i v w hv hw hd
              have hmem := List.mem_of_getElem? hv
              exact ih v hmem (hexpected.items v hmem) hd
      | _ =>
          refine absurd ?_ (path_ne_of_ignored h hignored)
          cases reported_of_mem_compare h <;> rfl
  | object members ih =>
      have hcounts := counts_of_mem_compare h
      cases actual with
      | object others =>
          refine overhang_of_mem_compareObjects hcounts hexpected hignored ?_ h
          intro k v w hmem _ hd
          exact ih k v hmem (hexpected.members k v hmem) hd
      | _ =>
          refine absurd ?_ (path_ne_of_ignored h hignored)
          cases reported_of_mem_compare h <;> rfl
  | _ =>
      refine absurd ?_ (path_ne_of_ignored h hignored)
      cases reported_of_mem_compare h <;> rfl

/-! ## Options that name no item -/

/-- The last segment of a path that ends in a bracket ends in the bracket. -/
theorem getLast?_lastSegment_indexPath (path : String) (i : Nat) :
    (Options.lastSegment (indexPath path i)).toList.getLast? = some ']' := by
  have htext : (indexPath path i).toList.reverse =
      ']' :: (path ++ "[" ++ toString i).toList.reverse := by
    simp [indexPath]
  rw [Options.lastSegment, htext, List.takeWhile_cons_of_pos (by decide), List.reverse_cons,
    String.toList_ofList, List.getLast?_concat]

/-- Only an entry that ends in a bracket can leave out an item by its path. -/
theorem exists_of_ignores_indexPath {i : Nat} (h : o.ignores (indexPath path i) = true) :
    ∃ f ∈ o.ignoredFields, f.toList.getLast? = some ']' := by
  obtain ⟨f, hf, hnames⟩ := List.any_eq_true.mp h
  refine ⟨f, hf, ?_⟩
  rcases Bool.or_eq_true _ _ ▸ hnames with hpath | hsegment
  · rw [beq_iff_eq.mp hpath, indexPath, String.toList_append]
    exact List.getLast?_concat
  · rw [beq_iff_eq.mp hsegment]
    exact getLast?_lastSegment_indexPath path i

/-- **Nothing is reported at a path that is left out but overhanging items.**  All of
them are, and without an entry that ends as the path of an item does nothing is. -/
theorem mem_compare_ignored_iff (o : Options) (hexpected : expected.Canonical)
    (actual : Value) (path : String) :
    (∀ d : Difference, d ∈ compare o expected path actual ∧ o.ignores d.path = true ↔
      Overhang o path expected actual d ∧ o.ignores d.path = true) ∧
    ((∀ f ∈ o.ignoredFields, f.toList.getLast? ≠ some ']') →
      ∀ d ∈ compare o expected path actual, o.ignores d.path = false) := by
  refine ⟨fun d => and_congr_left fun hignored => ⟨fun h => ?_, Overhang.mem_compare⟩, ?_⟩
  · exact overhang_of_mem_compare hexpected h hignored
  · intro hentries d h
    by_contra hignored
    rw [Bool.not_eq_false] at hignored
    have hitem : ∃ p i, d.path = indexPath p i := by
      cases overhang_of_mem_compare hexpected h hignored with
      | removed => exact ⟨_, _, rfl⟩
      | added => exact ⟨_, _, rfl⟩
    obtain ⟨p, i, hpath⟩ := hitem
    rw [hpath] at hignored
    obtain ⟨f, hf, hlast⟩ := exists_of_ignores_indexPath hignored
    exact hentries f hf hlast

/-- An item that is left out by its path and overhangs, next to a member that is left
out by its name and does not. -/
theorem mem_compare_ignored_overhanging :
    (Value.object [("a", .array [.int 1, .int 2]), ("b", .null)]).Canonical ∧
      removed "$.a[1]" (.int 2) ∈
        compare { ignoredFields := ["b", "$.a[1]"] }
          (.object [("a", .array [.int 1, .int 2]), ("b", .null)]) "$"
          (.object [("a", .array [.int 1])]) ∧
      (∀ f ∈ ({ ignoredFields := ["a", "b"] } : Options).ignoredFields,
        f.toList.getLast? ≠ some ']') ∧
      ∀ d ∈ compare { ignoredFields := ["a", "b"] }
          (.object [("a", .array [.int 1, .int 2]), ("b", .null)]) "$"
          (.object [("a", .array [.int 1])]),
        ({ ignoredFields := ["a", "b"] } : Options).ignores d.path = false := by
  have hcanonical : (Value.object [("a", .array [.int 1, .int 2]), ("b", .null)]).Canonical :=
    ⟨by decide +kernel, ⟨trivial, trivial, trivial⟩, trivial, trivial⟩
  have hoverhang : Overhang { ignoredFields := ["b", "$.a[1]"] } "$"
      (.object [("a", .array [.int 1, .int 2]), ("b", .null)])
      (.object [("a", .array [.int 1])]) (removed "$.a[1]" (.int 2)) :=
    @Overhang.removed _ _ _ _ [.key "a"] [.int 1, .int 2] [.int 1] 1 (.int 2)
      ⟨by decide +kernel, show Options.ignores _ _ = false by decide +kernel⟩
      (by decide +kernel) rfl rfl rfl rfl
  obtain ⟨hreported, -⟩ := mem_compare_ignored_iff { ignoredFields := ["b", "$.a[1]"] }
    hcanonical (.object [("a", .array [.int 1])]) "$"
  obtain ⟨-, hquiet⟩ := mem_compare_ignored_iff { ignoredFields := ["a", "b"] }
    hcanonical (.object [("a", .array [.int 1])]) "$"
  exact ⟨hcanonical, ((hreported _).mpr ⟨hoverhang, by decide +kernel⟩).1,
    by decide +kernel, hquiet (by decide +kernel)⟩

/-- An item past the end of the actual array is reported although its path is left
out. -/
theorem compare_reports_ignored_item :
    ¬ ∀ d ∈ compare { ignoredFields := ["$[0]"] } (.array [.int 1]) "$" (.array []),
      ({ ignoredFields := ["$[0]"] } : Options).ignores d.path = false := by
  intro h
  have hreport : compare { ignoredFields := ["$[0]"] } (.array [.int 1]) "$" (.array []) =
      [removed "$[0]" (.int 1)] := by rfl
  have hcounts := h (removed "$[0]" (.int 1)) (by rw [hreport]; exact List.mem_cons_self)
  exact absurd hcounts (by decide +kernel)

end Expectation.Json
