import Expectation.Json.Expected
import Expectation.Proofs.Binary64
import Expectation.Proofs.Json.Members
import Expectation.Proofs.Json.Resolved
import Expectation.Proofs.Json.Shape
import Expectation.Proofs.Matcher.Rereading

/-!
# What the readers give

Trees that have been read are of a certain shape: keys ascend, the nesting is
limited, no leaf is a matcher or a NaN, and an integer that fits sixty-four bits
with a sign has that form.  The matchers of an expected document come from
expressions only, so each of them has its arguments.

## Main results

* `shaped_value`: the shape of what the reader for values gives.
* `shaped_readActual`: the shape of an actual document.
* `literal_read`: what is read is a literal tree.
* `matchers_readExpected`: the matchers of an expected document.
-/

namespace Expectation.Json

/-- A leaf that the reader can give. -/
def Value.Parsed : Value → Prop
  | .matcher _ => False
  | .nat n => Nat.pow 2 63 ≤ n.toNat
  | .float x => x.isNaN = false
  | _ => True

/-! ## Numbers -/

/-- What the readers for numbers give is a number in the right form. -/
def IsNumber (v : Value) : Prop := v.isLeaf = true ∧ v.Parsed

theorem isNumber_withSign (negative : Bool) {x : Binary64} (h : x.isNaN = false) :
    IsNumber (withSign negative x) := by
  refine ⟨rfl, ?_⟩
  show (if negative then x.neg else x).isNaN = false
  cases negative with
  | true => exact (Binary64.isNaN_neg x).trans h
  | false => exact h

/-- A power of ten times or divided by a number is not a NaN. -/
theorem isNaN_of_scaled? {n : Nat} {scale : Int} {x : Binary64} (h : scaled? n scale = some x) :
    x.isNaN = false := by
  have hrounded := Binary64.isNaN_ofQuotient
  have hof : ∀ y : Binary64, (∃ s p q, y = .ofQuotient s p q) → some y = some x →
      x.isNaN = false := by
    rintro y ⟨s, p, q, rfl⟩ heq
    exact Option.some.inj heq ▸ hrounded s p q
  unfold scaled? at h
  simp only at h
  split at h
  · exact hof _ ⟨_, _, _, rfl⟩ h
  · split at h
    · split at h
      · exact absurd h (by simp)
      · split at h
        · exact hof _ ⟨_, _, _, rfl⟩ h
        · exact absurd h (by simp)
    · split at h
      · exact hof _ ⟨_, _, _, rfl⟩ h
      · split at h <;> exact hof _ ⟨_, _, _, rfl⟩ h

theorem appendDigits_lt {n : Nat} (h : n < Nat.pow 2 64) (ds : List Nat) :
    (appendDigits n ds).1 < Nat.pow 2 64 := by
  induction ds generalizing n with
  | nil => exact h
  | cons d ds ih =>
      unfold appendDigits
      split
      · next hlt => exact ih hlt
      · exact h

theorem isNumber_integerValue (negative : Bool) {n : Nat} (h : n < Nat.pow 2 64) :
    IsNumber (integerValue negative n) := by
  have hopposite : ∀ m, IsNumber (.float (Binary64.ofNat m).neg) := fun m =>
    isNumber_withSign true (Binary64.isNaN_ofQuotient false m 1)
  unfold integerValue
  split
  · split
    · exact hopposite 0
    · split
      · exact ⟨rfl, trivial⟩
      · exact hopposite n
  · split
    · exact ⟨rfl, trivial⟩
    · next hlarge =>
        refine ⟨rfl, ?_⟩
        show Nat.pow 2 63 ≤ (UInt64.ofNat n).toNat
        rw [UInt64.toNat_ofNat_of_lt' h]
        exact Nat.not_lt.mp hlarge

theorem isNumber_floatValue {negative : Bool} {n : Nat} {scale : Int} {cs rest : Input}
    {v : Value} (h : floatValue negative n scale cs = .ok (v, rest)) : IsNumber v := by
  unfold floatValue at h
  split at h
  · next x hx =>
      cases h
      exact isNumber_withSign _ (isNaN_of_scaled? hx)
  · exact absurd h (by simp [fail])

theorem isNumber_exponentPart {negative : Bool} {n : Nat} {scale : Int} {cs rest : Input}
    {v : Value} (h : exponentPart negative n scale cs = .ok (v, rest)) : IsNumber v := by
  unfold exponentPart at h
  split at h
  next down signed hsigned =>
    split at h
    · exact absurd h (by simp [fail])
    · split at h
      · exact absurd h (by simp)
      · split at h
        · exact isNumber_floatValue h
        · split at h
          · exact absurd h (by simp [fail])
          · cases h
            exact isNumber_withSign _ (Binary64.isNaN_ofQuotient _ _ _)

theorem isNumber_fractionPart {negative : Bool} {n : Nat} {scale : Int} {cs rest : Input}
    {v : Value} (h : fractionPart negative n scale cs = .ok (v, rest)) : IsNumber v := by
  unfold fractionPart afterDigits at h
  split at h
  · exact absurd h (by simp [failNext])
  · simp only at h
    split at h
    · exact isNumber_exponentPart h
    · exact isNumber_exponentPart h
    · exact isNumber_floatValue h

theorem isNumber_number {negative : Bool} {cs rest : Input} {v : Value}
    (h : number negative cs = .ok (v, rest)) : IsNumber v := by
  unfold number at h
  split at h
  · exact absurd h (by simp [fail])
  · exact absurd h (by simp)
  · split at h
    · exact absurd h (by simp)
    · simp only at h
      split at h
      · exact isNumber_fractionPart h
      · exact isNumber_exponentPart h
      · exact isNumber_exponentPart h
      · split at h
        · cases h
          exact isNumber_integerValue _ (appendDigits_lt (by decide) _)
        · exact isNumber_floatValue h

/-! ## Trees -/

section Blocks

variable {α : Type} {item : Reader α} {p : α → Prop}

/-- Every item of an array has been read. -/
theorem forall_mem_items (hitem : ∀ cs v rest, item cs = .ok (v, rest) → p v) {fuel : Nat}
    {first : Bool} {cs rest : Input} {vs : List α}
    (h : items item fuel first cs = .ok (vs, rest)) : ∀ v ∈ vs, p v := by
  induction fuel generalizing first cs vs with
  | zero => exact absurd h (by simp [items, fail])
  | succ fuel ih =>
      unfold items at h
      split at h
      · exact absurd h (by simp)
      · cases h
        exact fun v hv => absurd hv List.not_mem_nil
      · split at h
        · exact absurd h (by simp)
        · next w after hw =>
            obtain ⟨⟨ws, after'⟩, htail, heq⟩ := exists_ok_of_map h
            cases heq
            intro v hv
            rcases List.mem_cons.mp hv with rfl | hv
            · exact hitem _ _ _ hw
            · exact ih htail v hv

/-- The value of every member of an object has been read. -/
theorem forall_mem_members (hitem : ∀ cs v rest, item cs = .ok (v, rest) → p v) {fuel : Nat}
    {first : Bool} {cs rest : Input} {ms : List (String × α)}
    (h : members item fuel first cs = .ok (ms, rest)) : ∀ k v, (k, v) ∈ ms → p v := by
  induction fuel generalizing first cs ms with
  | zero => exact absurd h (by simp [members, fail])
  | succ fuel ih =>
      unfold members at h
      split at h
      · exact absurd h (by simp)
      · cases h
        exact fun k v hv => absurd hv List.not_mem_nil
      · split at h
        · exact absurd h (by simp)
        · split at h
          · exact absurd h (by simp)
          · split at h
            · exact absurd h (by simp)
            · next key _ _ _ _ w after hw =>
                obtain ⟨⟨ms', after'⟩, htail, heq⟩ := exists_ok_of_map h
                cases heq
                intro k v hv
                rcases List.mem_cons.mp hv with heq | hv
                · cases heq
                  exact hitem _ _ _ hw
                · exact ih htail k v hv

end Blocks

/-- The shape of trees that are read with a depth to spare. -/
def ParsedShape : Nat → Value → Prop := Shaped Value.Parsed fun _ => True

/-- **What a value can be.**  It is a leaf, or its parts have been read by the
given reader. -/
theorem valueWith_cases {part : Option (Reader Value)} {cs rest : Input} {v : Value}
    (h : valueWith part cs = .ok (v, rest)) :
    (v.isLeaf = true ∧ v.Parsed) ∨
      ∃ item fuel cs', part = some item ∧
        ((∃ vs, v = .array vs ∧ items item fuel true cs' = .ok (vs, rest)) ∨
          ∃ ms, v = .object (ofPairs ms) ∧ members item fuel true cs' = .ok (ms, rest)) := by
  unfold valueWith at h
  split at h
  · exact absurd h (by simp [fail])
  · exact absurd h (by simp [failNext])
  · split at h
    · obtain ⟨_, _, heq⟩ := exists_ok_of_map h
      cases heq
      exact .inl ⟨rfl, trivial⟩
    · obtain ⟨_, _, heq⟩ := exists_ok_of_map h
      cases heq
      exact .inl ⟨rfl, trivial⟩
    · obtain ⟨_, _, heq⟩ := exists_ok_of_map h
      cases heq
      exact .inl ⟨rfl, trivial⟩
    · exact .inl (isNumber_number h)
    · obtain ⟨_, _, heq⟩ := exists_ok_of_map h
      cases heq
      exact .inl ⟨rfl, trivial⟩
    · split at h
      · exact absurd h (by simp [failNext])
      · obtain ⟨⟨vs, after⟩, hitems, heq⟩ := exists_ok_of_map h
        cases heq
        exact .inr ⟨_, _, _, rfl, .inl ⟨vs, rfl, hitems⟩⟩
    · split at h
      · exact absurd h (by simp [failNext])
      · obtain ⟨⟨ms, after⟩, hmembers, heq⟩ := exists_ok_of_map h
        cases heq
        exact .inr ⟨_, _, _, rfl, .inr ⟨ms, rfl, hmembers⟩⟩
    · split at h
      · exact .inl (isNumber_number h)
      · exact absurd h (by simp [failNext])

/-- **The shape of what is read.** -/
theorem shaped_value {n : Nat} {cs rest : Input} {v : Value} (h : value n cs = .ok (v, rest)) :
    ParsedShape n v := by
  induction n generalizing cs v rest with
  | zero =>
      rcases valueWith_cases h with hleaf | ⟨item, fuel, cs', hpart, -⟩
      · exact .leaf hleaf.1 hleaf.2
      · exact absurd hpart (by simp)
  | succ n ih =>
      rcases valueWith_cases h with hleaf | ⟨item, fuel, cs', hpart, hparts⟩
      · exact .leaf hleaf.1 hleaf.2
      · cases hpart
        have hread : ∀ cs v rest, value n cs = .ok (v, rest) → ParsedShape n v :=
          fun _ _ _ hv => ih hv
        rcases hparts with ⟨vs, rfl, hitems⟩ | ⟨ms, rfl, hmembers⟩
        · exact .array (forall_mem_items hread hitems)
        · refine .object (ascending_ofPairs ms) (fun _ _ _ => trivial) ?_
          intro k v hv
          exact forall_mem_members hread hmembers k v (mem_of_mem_ofPairs hv)

theorem shaped_read {input : Input} {v : Value} (h : read input = .ok v) :
    ParsedShape depthLimit v := by
  unfold read document at h
  split at h
  · next w hw =>
      cases h
      split at hw
      · exact absurd hw (by simp)
      · next u rest hu =>
          obtain ⟨_, _, heq⟩ := exists_ok_of_map hw
          cases heq
          exact shaped_value hu
  · exact absurd h (by simp)

theorem literal_of_isLeaf {v : Value} (hleaf : v.isLeaf = true) (h : v.Parsed) : v.Literal := by
  refine .scalar ?_ ?_
  · cases v with
    | array | object => exact absurd hleaf (by simp)
    | matcher => exact absurd h id
    | _ => rfl
  · rintro x rfl
    exact h

/-- Trees that have been read are literal. -/
theorem ParsedShape.literal {n : Nat} {v : Value} (h : ParsedShape n v) : v.Literal := by
  induction h with
  | leaf hleaf h => exact literal_of_isLeaf hleaf h
  | array _ ih => exact .array ih
  | object hasc _ _ ih => exact .object hasc ih

/-- **What is read is a literal tree.** -/
theorem literal_read {input : Input} {v : Value} (h : read input = .ok v) : v.Literal :=
  (shaped_read h).literal

/-- The shape of an actual document. -/
theorem shaped_readActual {bytes : List UInt8} {v : Value} (h : readActual bytes = .ok v) :
    ParsedShape depthLimit v := by
  unfold readActual at h
  split at h
  · exact absurd h (by simp)
  · next w hw =>
      cases h
      exact shaped_read hw

/-! ## Matchers -/

/-- The matchers of a tree all have a property. -/
def Value.Matchers (p : Matcher → Prop) (v : Value) : Prop :=
  v.Everywhere fun w => ∀ m, w = .matcher m → p m

instance (p : Matcher → Prop) [DecidablePred p] (v : Value) : Decidable (v.Matchers p) :=
  haveI : DecidablePred fun w : Value => ∀ m, w = .matcher m → p m := fun w =>
    match w with
    | .matcher m => decidable_of_iff (p m) (by simp)
    | .null | .bool _ | .int _ | .nat _ | .float _ | .string _ | .array _ | .object _ =>
      isTrue (by rintro m ⟨⟩)
  inferInstanceAs (Decidable (v.Everywhere _))

theorem hasArgument_of_matcher {s : Substitution} {i : Nat} {m : Matcher}
    (h : s.matcher i = .ok m) : m.HasArgument := by
  unfold Substitution.matcher at h
  split at h
  · exact absurd h (by simp)
  · split at h
    · next e he m' hm =>
        cases h
        exact Matcher.ofExpression_hasArgument hm
    · exact absurd h (by simp)

/-- The matchers of a resolved tree come from expressions. -/
theorem matchers_resolve {s : Substitution} {n : Nat} {v w : Value} (hv : ParsedShape n v)
    (h : resolve s v = .ok w) : w.Matchers Matcher.HasArgument := by
  induction hv generalizing w with
  | @leaf n v hleaf hparsed =>
      cases v with
      | string text =>
          unfold resolve at h
          split at h
          · obtain ⟨m, hm, heq⟩ := exists_ok_of_map h
            subst heq
            refine Value.everywhere_of_isLeaf rfl ?_
            rintro m' ⟨⟩
            exact hasArgument_of_matcher hm
          · cases h
            exact Value.everywhere_of_isLeaf rfl (by rintro m ⟨⟩)
      | matcher m => exact absurd hparsed id
      | array _ | object _ => exact absurd hleaf (by simp)
      | _ =>
          cases h
          exact Value.everywhere_of_isLeaf rfl (by rintro m ⟨⟩)
  | array hitems ih =>
      obtain ⟨ws, hws, heq⟩ := exists_ok_of_map h
      subst heq
      refine Value.everywhere_array.mpr ⟨by rintro m ⟨⟩, fun w hw => ?_⟩
      obtain ⟨v, hmem, hres⟩ := exists_left_of_forall₂ (resolveItems_eq_ok_iff.mp hws) hw
      exact ih v hmem hres
  | object hasc hkeys hvalues ih =>
      obtain ⟨ws, hws, heq⟩ := exists_ok_of_map h
      subst heq
      refine Value.everywhere_object.mpr ⟨by rintro m ⟨⟩, fun l w hw => ?_⟩
      obtain ⟨⟨k, v⟩, hmem, -, hres⟩ :=
        exists_left_of_forall₂ (resolveMembers_eq_ok_iff.mp hws) (mem_of_mem_ofPairs hw)
      exact ih k v hmem hres

/-- **The matchers of an expected document** have their arguments. -/
theorem matchers_readExpected {text : String} {e : Expected} (h : readExpected text = .ok e) :
    e.root.Matchers Matcher.HasArgument := by
  obtain ⟨v, hv, hroot⟩ := exists_resolve_of_readExpected h
  exact matchers_resolve (shaped_read hv) hroot

end Expectation.Json
