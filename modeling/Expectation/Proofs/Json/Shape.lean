import Expectation.Proofs.Json.Tree

/-!
# The shape of trees

Reading, writing and bringing up to date change what stands at the leaves of a
tree, but hardly the way it branches.  `Shaped` describes trees by what their
leaves and keys are like and by how deeply they nest; the keys of every object
ascend.

## Main results

* `Shaped.imp_leaf`, `Shaped.imp`: weaker conditions on leaves and keys.
* `Shaped.everywhere`: a condition on all parts of a tree holds of its leaves.
* `Shaped.fits`: what a shape says about each part of a tree.
-/

namespace Expectation.Json

/-- A value that is neither an array nor an object. -/
def Value.isLeaf : Value → Bool
  | .array _ | .object _ => false
  | _ => true

@[simp] theorem Value.isLeaf_array (items : List Value) : (Value.array items).isLeaf = false :=
  rfl

@[simp] theorem Value.isLeaf_object (members : List (String × Value)) :
    (Value.object members).isLeaf = false :=
  rfl

theorem Value.everywhere_of_isLeaf {p : Value → Prop} {v : Value} (h : v.isLeaf = true)
    (hp : p v) : v.Everywhere p := by
  have hparts : v.parts = [v] := by
    cases v with
    | array _ | object _ => exact absurd h (by simp)
    | _ => rfl
  intro w hw
  rw [hparts] at hw
  rwa [List.mem_singleton.mp hw]

/-- A tree that nests at most to a depth, with ascending keys; its leaves have
one property and its keys another. -/
inductive Shaped (leaf : Value → Prop) (key : String → Prop) : Nat → Value → Prop
  | leaf {n : Nat} {v : Value} (hleaf : v.isLeaf = true) (h : leaf v) : Shaped leaf key n v
  | array {n : Nat} {items : List Value} (h : ∀ v ∈ items, Shaped leaf key n v) :
      Shaped leaf key (n + 1) (.array items)
  | object {n : Nat} {members : List (String × Value)} (hasc : Ascending members)
      (hkeys : ∀ k v, (k, v) ∈ members → key k)
      (h : ∀ k v, (k, v) ∈ members → Shaped leaf key n v) :
      Shaped leaf key (n + 1) (.object members)

/-- What a shape says about one part of a tree. -/
def Value.Fits (leaf : Value → Prop) (key : String → Prop) (w : Value) : Prop :=
  (w.isLeaf = true → leaf w) ∧
    ∀ members, w = .object members → ∀ k v, (k, v) ∈ members → key k

namespace Shaped

variable {leaf leaf' : Value → Prop} {key key' : String → Prop} {n : Nat} {v : Value}

theorem imp_leaf (h : Shaped leaf key n v) (hleaf : ∀ w, w.isLeaf = true → leaf w → leaf' w)
    (hkey : ∀ k, key k → key' k) : Shaped leaf' key' n v := by
  induction h with
  | leaf hnot h => exact .leaf hnot (hleaf _ hnot h)
  | array _ ih => exact .array ih
  | object hasc hkeys _ ih => exact .object hasc (fun k v hmem => hkey k (hkeys k v hmem)) ih

theorem imp (h : Shaped leaf key n v) (hleaf : ∀ w, leaf w → leaf' w)
    (hkey : ∀ k, key k → key' k) : Shaped leaf' key' n v :=
  h.imp_leaf (fun w _ => hleaf w) hkey

/-- A condition on every part of a tree is a condition on its leaves and keys. -/
theorem everywhere {p : Value → Prop} (h : Shaped leaf key n v) (hp : v.Everywhere p) :
    Shaped (fun w => leaf w ∧ p w)
      (fun k => key k ∧ ∃ members, p (.object members) ∧ ∃ w, (k, w) ∈ members) n v := by
  induction h with
  | leaf hnot h => exact .leaf hnot ⟨h, hp.self⟩
  | array _ ih =>
      have hparts := (Value.everywhere_array.mp hp).2
      exact .array fun v hv => ih v hv (hparts v hv)
  | object hasc hkeys _ ih =>
      obtain ⟨hself, hparts⟩ := Value.everywhere_object.mp hp
      exact .object hasc (fun k v hmem => ⟨hkeys k v hmem, _, hself, v, hmem⟩)
        fun k v hmem => ih k v hmem (hparts k v hmem)

/-- Every part of a tree fits its shape. -/
theorem fits (h : Shaped leaf key n v) : v.Everywhere (Value.Fits leaf key) := by
  induction h with
  | @leaf n v hnot h =>
      refine Value.everywhere_of_isLeaf hnot ⟨fun _ => h, ?_⟩
      rintro members rfl
      exact absurd hnot (by simp)
  | array _ ih => exact Value.everywhere_array.mpr ⟨⟨by simp, by simp⟩, ih⟩
  | object _ hkeys _ ih =>
      refine Value.everywhere_object.mpr ⟨⟨by simp, ?_⟩, ih⟩
      rintro members ⟨⟩
      exact hkeys

end Shaped

end Expectation.Json
