import Mathlib.Data.List.TakeWhile
import Expectation.Proofs.Json.Agreement
import Expectation.Proofs.Json.Places

/-!
# Leaving out members by name

An entry without a point, a bracket or a dollar sign is no path but the name of a field.
The options never see a key, though: they are asked about the path of a member, and take for
its name what stands behind the last point.  That is the key, if the key has no point;
otherwise it is only the end of it, and a member is left out although no entry is its key.

The comparison of two objects is described here with the names in place of the paths: it is
that of the members whose names are no entries, each of them looked at.

## Main results

* `lastSegment_keyPath`: the name of a member is the part of its key behind the last point.
* `ignores_keyPath`: a member is left out exactly if its name is an entry.
* `compare_objects_of_namesOnly`: what is reported about two objects.
-/

namespace Expectation.Json

namespace Options

/-- Every entry for fields that are left out is a bare name. -/
def NamesOnly (o : Options) : Prop :=
  ∀ entry ∈ o.ignoredFields, ∀ c ∈ ['.', '[', '$'], c ∉ entry.toList

/-! ## The name of a member -/

/-- The part behind the last point is everything, if there is no point. -/
theorem lastSegment_of_not_mem {s : String} (h : '.' ∉ s.toList) : lastSegment s = s := by
  have hall : ∀ c ∈ s.toList.reverse, (c != '.') = true := by
    intro c hc
    rw [bne_iff_ne]
    rintro rfl
    exact h (List.mem_reverse.mp hc)
  rw [lastSegment, List.takeWhile_eq_self_iff.mpr hall, List.reverse_reverse,
    String.ofList_toList]

/-- **The name of a member** is the part of its key behind the last point. -/
theorem lastSegment_keyPath (path key : String) :
    lastSegment (keyPath path key) = lastSegment key := by
  have hpoint : lastSegment ("." ++ key) = lastSegment key := by
    rw [lastSegment, String.toList_append, List.reverse_append, List.takeWhile_append]
    split
    · next hall =>
      rw [lastSegment, (List.takeWhile_prefix _).eq_of_length hall]
      simp
    · rfl
  rw [keyPath, String.append_assoc, lastSegment_append_of_mem _ (by simp), hpoint]

/-- A bare name is not the path of a member, so only names count.  **A member is left out
exactly if its name is an entry.** -/
theorem ignores_keyPath {o : Options} (h : o.NamesOnly) (path key : String) :
    o.ignores (keyPath path key) = decide (lastSegment key ∈ o.ignoredFields) := by
  have hpath : ∀ entry ∈ o.ignoredFields, entry ≠ keyPath path key := by
    rintro entry hentry rfl
    exact h _ hentry '.' (by simp) (by simp [keyPath])
  rw [Bool.eq_iff_iff, decide_eq_true_iff, ignores, List.any_eq_true, lastSegment_keyPath]
  constructor
  · rintro ⟨entry, hentry, heq⟩
    rcases Bool.or_eq_true _ _ ▸ heq with heq | heq
    · exact absurd (beq_iff_eq.mp heq) (hpath entry hentry)
    · exact beq_iff_eq.mp heq ▸ hentry
  · exact fun hname => ⟨_, hname, by simp⟩

end Options

/-! ## Comparing objects -/

variable {o : Options} {path : String}

/-- The members whose names are no entries. -/
def unnamed (o : Options) (members : List (String × Value)) : List (String × Value) :=
  members.filter fun m => Options.lastSegment m.1 ∉ o.ignoredFields

/-- What there is to report at an expected member that is looked at: unless it is to be
ignored, the differences between the two values, or that it is missing. -/
def memberFindings (o : Options) (path : String) (others : List (String × Value))
    (m : String × Value) : List Difference :=
  if m.2.matcher?.any Matcher.isIgnore then []
  else match lookup m.1 others with
    | some w => compare o m.2 (keyPath path m.1) w
    | none => [removed (keyPath path m.1) m.2]

/-- What there is to report at an actual member that is looked at: that it is not
expected. -/
def additionFindings (path : String) (members : List (String × Value)) (m : String × Value) :
    List Difference :=
  if (lookup m.1 members).isSome then [] else [added (keyPath path m.1) m.2]

/-- A run that reports nothing at some points is a run over the others. -/
theorem flatMap_eq_flatMap_filter {α β : Type} {f g : α → List β} {p : α → Bool}
    {l : List α} (hskipped : ∀ a ∈ l, p a = false → f a = [])
    (hkept : ∀ a ∈ l, p a = true → f a = g a) : l.flatMap f = (l.filter p).flatMap g := by
  induction l with
  | nil => rfl
  | cons a l ih =>
      have htail := ih (fun b hb => hskipped b (List.mem_cons_of_mem a hb))
        fun b hb => hkept b (List.mem_cons_of_mem a hb)
      rw [List.flatMap_cons, htail]
      cases ha : p a with
      | true =>
          rw [List.filter_cons_of_pos ha, List.flatMap_cons, hkept a List.mem_cons_self ha]
      | false =>
          rw [List.filter_cons_of_neg (by simp [ha]), hskipped a List.mem_cons_self ha]
          rfl

theorem compareMembers_of_namesOnly (h : o.NamesOnly) (path : String)
    (others members : List (String × Value)) :
    compareMembers o path others members =
      (unnamed o members).flatMap (memberFindings o path others) := by
  rw [compareMembers_eq_flatMap]
  refine flatMap_eq_flatMap_filter (fun m _ hm => ?_) fun m _ hm => ?_
  · have hname : Options.lastSegment m.1 ∈ o.ignoredFields := by simpa using hm
    simp [memberReport, Options.ignores_keyPath h, hname]
  · have hname : Options.lastSegment m.1 ∉ o.ignoredFields := of_decide_eq_true hm
    simp only [memberReport, Options.ignores_keyPath h, hname, decide_false, Bool.false_or]
    rfl

theorem addedMembers_of_namesOnly (h : o.NamesOnly) (path : String)
    (members others : List (String × Value)) :
    addedMembers o path members others =
      (unnamed o others).flatMap (additionFindings path members) := by
  rw [addedMembers_eq_flatMap]
  refine flatMap_eq_flatMap_filter (fun m _ hm => ?_) fun m _ hm => ?_
  · have hname : Options.lastSegment m.1 ∈ o.ignoredFields := by simpa using hm
    simp [additionReport, Options.ignores_keyPath h, hname]
  · have hname : Options.lastSegment m.1 ∉ o.ignoredFields := of_decide_eq_true hm
    simp only [additionReport, Options.ignores_keyPath h, hname, decide_false, Bool.or_false]
    rfl

/-- **Bare names leave out members by the last part of their keys.**  Under entries that are
bare names, a member of an object is left out exactly if the part of its key behind the last
point is an entry; of keys without a point, exactly if the key is.  What is reported about
two objects is what there is to report at the other members, expected ones first. -/
theorem compare_objects_of_namesOnly {o : Options} (h : o.NamesOnly) {path : String}
    (hpath : o.ignores path = false) (members others : List (String × Value)) :
    (∀ key, o.ignores (keyPath path key) = true ↔
      Options.lastSegment key ∈ o.ignoredFields) ∧
    (∀ key : String, '.' ∉ key.toList →
      (o.ignores (keyPath path key) = true ↔ key ∈ o.ignoredFields)) ∧
    compare o (.object members) path (.object others) =
      (unnamed o members).flatMap (memberFindings o path others) ++
        (unnamed o others).flatMap (additionFindings path members) := by
  refine ⟨fun key => ?_, fun key hkey => ?_, ?_⟩
  · rw [Options.ignores_keyPath h, decide_eq_true_iff]
  · rw [Options.ignores_keyPath h, Options.lastSegment_of_not_mem hkey, decide_eq_true_iff]
  · rw [← compareMembers_of_namesOnly h, ← addedMembers_of_namesOnly h]
    simp [compare, hpath]

/-- A member on each side that is left out by its name, next to keys that only end or begin
like it. -/
theorem compare_objects_of_namesOnly_ids :
    Options.NamesOnly { ignoredFields := ["id"] } ∧
      Options.ignores { ignoredFields := ["id"] } "$.a" = false ∧
      (∀ key : String, '.' ∉ key.toList →
        (Options.ignores { ignoredFields := ["id"] } (keyPath "$.a" key) = true ↔
          key ∈ ["id"])) ∧
      compare { ignoredFields := ["id"] }
          (.object [("id", .int 1), ("ids", .int 2), ("pid", .int 3)]) "$.a"
          (.object [("id", .null), ("ids", .int 4)]) =
        (unnamed { ignoredFields := ["id"] }
            [("id", .int 1), ("ids", .int 2), ("pid", .int 3)]).flatMap
          (memberFindings { ignoredFields := ["id"] } "$.a" [("id", .null), ("ids", .int 4)]) ++
        (unnamed { ignoredFields := ["id"] } [("id", .null), ("ids", .int 4)]).flatMap
          (additionFindings "$.a" [("id", .int 1), ("ids", .int 2), ("pid", .int 3)]) := by
  have hnames : Options.NamesOnly { ignoredFields := ["id"] } := by
    simp [Options.NamesOnly]
  have hcounts : Options.ignores { ignoredFields := ["id"] } "$.a" = false := by decide +kernel
  obtain ⟨-, hkeys, hreport⟩ := compare_objects_of_namesOnly hnames hcounts
    [("id", .int 1), ("ids", .int 2), ("pid", .int 3)] [("id", .null), ("ids", .int 4)]
  exact ⟨hnames, hcounts, hkeys, hreport⟩

/-- A key that ends in a point and a name is left out by the name, and a difference in its
value goes unreported. -/
theorem compare_drops_pointed_key :
    Options.NamesOnly { ignoredFields := ["id"] } ∧
      Options.ignores { ignoredFields := ["id"] } "$" = false ∧
      ¬ (compare { ignoredFields := ["id"] } (.object [("a.id", .int 1)]) "$"
          (.object [("a.id", .int 2)]) = [] ↔ "a.id" ∈ ["id"]) ∧
      compare {} (.object [("a.id", .int 1)]) "$" (.object [("a.id", .int 2)]) =
        [changed "$.a.id" (.int 1) (.int 2)] := by
  have hdropped : compare { ignoredFields := ["id"] } (.object [("a.id", .int 1)]) "$"
      (.object [("a.id", .int 2)]) = [] := by rfl
  exact ⟨by simp [Options.NamesOnly], by decide +kernel,
    fun h => absurd (h.mp hdropped) (by decide), by rfl⟩

end Expectation.Json
