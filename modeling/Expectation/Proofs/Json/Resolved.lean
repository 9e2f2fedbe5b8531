import Expectation.Json.Expected
import Expectation.Proofs.Json.Tree

/-!
# Resolving part by part

A tree is resolved by resolving its parts, and the loops over items and members
stop at the first part that cannot be.  When they come to an end, the parts and
what became of them correspond place by place; when they do not, one of the
parts has the error.

## Main results

* `resolveItems_eq_ok_iff`, `resolveMembers_eq_ok_iff`: what the loops give.
* `resolveItems_eq_error`, `resolveMembers_eq_error`: what they fail at.
* `readExpected_of_readString`, `exists_resolve_of_readExpected`: what a document is
  resolved from.
-/

namespace Expectation.Json

/-! ## Results that are carried on -/

theorem exists_ok_of_map {ε α β : Type} {f : α → β} {x : Except ε α} {b : β}
    (h : x.map f = .ok b) : ∃ a, x = .ok a ∧ f a = b := by
  cases x with
  | error e => exact absurd h (by simp [Except.map])
  | ok a => exact ⟨a, rfl, Except.ok.inj h⟩

theorem eq_error_of_map {ε α β : Type} {f : α → β} {x : Except ε α} {e : ε}
    (h : x.map f = .error e) : x = .error e := by
  cases x with
  | error e' => exact congrArg Except.error (Except.error.inj h)
  | ok a => cases h

/-- A result that passes a test is a result. -/
theorem exists_ok_of_any {ε α : Type} {p : α → Prop} [DecidablePred p] {x : Except ε α}
    (h : x.toOption.any (fun a => decide (p a)) = true) : ∃ a, x = .ok a ∧ p a := by
  cases x with
  | error e => exact absurd h (by simp [Except.toOption])
  | ok a => exact ⟨a, rfl, of_decide_eq_true h⟩

/-! ## The loops -/

variable {s : Substitution} {error : DocumentError}

/-- **Items are resolved one by one.** -/
theorem resolveItems_eq_ok_iff {vs ws : List Value} :
    resolveItems s vs = .ok ws ↔ List.Forall₂ (fun v w => resolve s v = .ok w) vs ws := by
  induction vs generalizing ws with
  | nil =>
      rw [resolveItems, List.forall₂_nil_left_iff]
      exact ⟨fun h => (Except.ok.inj h).symm, fun h => congrArg Except.ok h.symm⟩
  | cons v vs ih =>
      rw [resolveItems, List.forall₂_cons_left_iff]
      constructor
      · intro h
        split at h
        · contradiction
        · next w hw =>
          obtain ⟨rest, hrest, rfl⟩ := exists_ok_of_map h
          exact ⟨w, rest, hw, ih.mp hrest, rfl⟩
      · rintro ⟨w, rest, hw, hrest, rfl⟩
        rw [hw, ih.mpr hrest]
        rfl

/-- **Members are resolved one by one**, with their keys. -/
theorem resolveMembers_eq_ok_iff {ms ns : List (String × Value)} :
    resolveMembers s ms = .ok ns ↔
      List.Forall₂ (fun m n => s.restore m.1 = n.1 ∧ resolve s m.2 = .ok n.2) ms ns := by
  induction ms generalizing ns with
  | nil =>
      rw [resolveMembers, List.forall₂_nil_left_iff]
      exact ⟨fun h => (Except.ok.inj h).symm, fun h => congrArg Except.ok h.symm⟩
  | cons m ms ih =>
      obtain ⟨k, v⟩ := m
      rw [resolveMembers, List.forall₂_cons_left_iff]
      constructor
      · intro h
        split at h
        · contradiction
        · next w hw =>
          obtain ⟨rest, hrest, rfl⟩ := exists_ok_of_map h
          exact ⟨(s.restore k, w), rest, ⟨rfl, hw⟩, ih.mp hrest, rfl⟩
      · rintro ⟨⟨l, w⟩, rest, ⟨hkey, hw⟩, hrest, rfl⟩
        rw [show resolve s v = .ok w from hw, ih.mpr hrest, show s.restore k = l from hkey]
        rfl

theorem resolveItems_eq_error {vs : List Value} (h : resolveItems s vs = .error error) :
    ∃ v ∈ vs, resolve s v = .error error := by
  induction vs with
  | nil => cases h
  | cons v vs ih =>
      rw [resolveItems] at h
      split at h
      · next he =>
        cases h
        exact ⟨v, List.mem_cons_self, he⟩
      · obtain ⟨w, hw, hwerror⟩ := ih (eq_error_of_map h)
        exact ⟨w, List.mem_cons_of_mem v hw, hwerror⟩

theorem resolveMembers_eq_error {ms : List (String × Value)}
    (h : resolveMembers s ms = .error error) :
    ∃ k v, (k, v) ∈ ms ∧ resolve s v = .error error := by
  induction ms with
  | nil => cases h
  | cons member ms ih =>
      obtain ⟨k, v⟩ := member
      rw [resolveMembers] at h
      split at h
      · next he =>
        cases h
        exact ⟨k, v, List.mem_cons_self, he⟩
      · obtain ⟨l, w, hw, hwerror⟩ := ih (eq_error_of_map h)
        exact ⟨l, w, List.mem_cons_of_mem _ hw, hwerror⟩

/-! ## Documents -/

/-- Behind text that is JSON an expected document is resolved. -/
theorem readExpected_of_readString {text : String} {v : Value}
    (h : readString (Substitution.ofText .value text).text = .ok v) :
    readExpected text = (resolve (Substitution.ofText .value text) v).map fun root =>
      ⟨root, Substitution.ofText .value text⟩ := by
  unfold readExpected
  dsimp only
  rw [h]

theorem readExpected_of_readString_error {text : String} {fault : Located}
    (h : readString (Substitution.ofText .value text).text = .error fault) :
    readExpected text = .error (.json fault) := by
  unfold readExpected
  dsimp only
  rw [h]

/-- What an expected document holds is resolved from a tree. -/
theorem exists_resolve_of_readExpected {text : String} {e : Expected}
    (h : readExpected text = .ok e) :
    ∃ v, readString (Substitution.ofText .value text).text = .ok v ∧
      resolve (Substitution.ofText .value text) v = .ok e.root := by
  cases hread : readString (Substitution.ofText .value text).text with
  | error fault =>
      rw [readExpected_of_readString_error hread] at h
      contradiction
  | ok v =>
      rw [readExpected_of_readString hread] at h
      obtain ⟨root, hroot, rfl⟩ := exists_ok_of_map h
      exact ⟨v, rfl, hroot⟩

end Expectation.Json
