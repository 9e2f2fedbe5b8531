import Expectation.Proofs.Json.Carrying
import Expectation.Proofs.Json.Origin
import Expectation.Proofs.Json.Readback
import Expectation.Proofs.Json.Resolving

/-!
# Bringing documents up to date and reading them again

The text of an expected document is read back as the tree it was written for.
The way there and back goes through five forms: the tree with sentinels, its
text, the text with the expressions filled in, the segments that a scan finds
in it, and the tree with sentinels again, which the reader resolves.

A document brought up to date is such a tree: its leaves are those of the
actual document and the matchers of the expected one.

## Main results

* `readExpected_templateText`: the text of a tree is read back as the tree.
* `shaped_carryMatchers`: carrying matchers over keeps the shape of a tree.
* `readExpected_updatedText`: the text of a document brought up to date is read
  back as the merged tree.
-/

namespace Expectation.Json

open Placeholder

/-! ## Reading a written tree -/

/-- What the scan makes of the text of a tree: the text with sentinels, and the
expressions of its matchers. -/
theorem ofText_templateText {n : Nat} {v : Value} (h : Shaped Value.Writable Inert n v) :
    Substitution.ofText .value (templateText v ++ "\n") =
      ⟨(withSentinels [] v).1.pretty ++ "\n", (withSentinels [] v).2⟩ := by
  have hfree : ∀ c ∈ ['\n'], c ∉ guarded := List.all_iff_forall_prop.mp (by decide)
  have hend : Legible [.char '\n'] := legible_chars hfree .nil
  have hscan := scan_written (legible_segments h 0 hend)
  have hraw : (templateText v ++ "\n").toList = written (segments 0 v ++ [.char '\n']) := by
    rw [String.toList_append, toList_templateText h, written_append]
    rfl
  have hspells := (spells_segments [] 0 v).append (spells_chars _ ['\n'])
  have htext : spell 0 (segments 0 v ++ [.char '\n']) =
      ((withSentinels [] v).1.pretty ++ "\n").toList := by
    rw [String.toList_append]
    exact hspells.text
  have hexpressions : expressionsOf (segments 0 v ++ [.char '\n']) = (withSentinels [] v).2 :=
    hspells.collected.symm
  simp only [Substitution.ofText, hraw, hscan, htext, hexpressions, String.ofList_toList]

/-- **Written trees are read back.** -/
theorem readExpected_templateText {v : Value}
    (h : Shaped Value.Writable Inert depthLimit v) :
    ∃ e, readExpected (templateText v ++ "\n") = .ok e ∧ e.root = v := by
  have htext := ofText_templateText h
  have hread : readString (Substitution.ofText .value (templateText v ++ "\n")).text =
      .ok (withSentinels [] v).1 := by
    rw [htext]
    exact readString_pretty (shaped_withSentinels h []).rereads
  have hresolve := resolve_withSentinels
    (s := ⟨(withSentinels [] v).1.pretty ++ "\n", (withSentinels [] v).2⟩) h []
    (List.prefix_refl _)
  rw [readExpected_of_readString hread, htext, hresolve]
  exact ⟨_, rfl, rfl⟩

/-! ## Carrying matchers over -/

/-- What is in the merged list comes from the actual one, as it is or merged. -/
theorem carryItems_mem {vs ws : List Value} {w : Value} (h : w ∈ carryItems vs ws) :
    w ∈ ws ∨ ∃ v ∈ vs, ∃ u ∈ ws, w = carryMatchers v u := by
  induction ws generalizing vs with
  | nil => cases vs <;> exact absurd h (by simp [carryItems])
  | cons u us ih =>
      cases vs with
      | nil => exact .inl h
      | cons v vs =>
          rcases List.mem_cons.mp h with rfl | h
          · exact .inr ⟨v, List.mem_cons_self, u, List.mem_cons_self, rfl⟩
          · rcases ih h with h | ⟨v', hv, u', hu, heq⟩
            · exact .inl (List.mem_cons_of_mem u h)
            · exact .inr ⟨v', List.mem_cons_of_mem v hv, u', List.mem_cons_of_mem u hu, heq⟩

/-- **Carrying matchers over keeps the shape.**  The leaves of the outcome are
leaves of the actual tree and matchers of the expected one. -/
theorem shaped_carryMatchers {leaf : Value → Prop} {key : String → Prop} {p : Matcher → Prop}
    {n : Nat} {expected actual : Value} (hexpected : expected.Matchers p)
    (hactual : Shaped leaf key n actual) :
    Shaped (fun w => leaf w ∨ ∃ m, w = .matcher m ∧ p m) key n
      (carryMatchers expected actual) := by
  have hkeep : ∀ {n : Nat} {w : Value}, Shaped leaf key n w →
      Shaped (fun w => leaf w ∨ ∃ m, w = .matcher m ∧ p m) key n w :=
    fun h => h.imp (fun _ hw => .inl hw) fun _ hk => hk
  induction expected generalizing n actual with
  | matcher m => exact .leaf rfl (.inr ⟨m, rfl, hexpected.self m rfl⟩)
  | array items ih =>
      cases hactual with
      | leaf hleaf h =>
          cases actual with
          | array _ | object _ => exact absurd hleaf (by simp)
          | _ => exact .leaf hleaf (.inl h)
      | @array n others h =>
          have hitems := (Value.everywhere_array.mp hexpected).2
          refine .array fun w hw => ?_
          rcases carryItems_mem hw with hw | ⟨v, hv, u, hu, rfl⟩
          · exact hkeep (h w hw)
          · exact ih v hv (hitems v hv) (h u hu)
      | object hasc hkeys h => exact hkeep (.object hasc hkeys h)
  | object members ih =>
      cases hactual with
      | leaf hleaf h =>
          cases actual with
          | array _ | object _ => exact absurd hleaf (by simp)
          | _ => exact .leaf hleaf (.inl h)
      | array h => exact hkeep (.array h)
      | @object n others hasc hkeys h =>
          have hmembers := (Value.everywhere_object.mp hexpected).2
          have hcarry : ∀ k w, (k, w) ∈ others.map (fun o => (o.1, carryAt o.1 members o.2)) →
              ∃ u, (k, u) ∈ others ∧ w = carryAt k members u := by
            intro k w hw
            obtain ⟨⟨l, u⟩, hu, heq⟩ := List.mem_map.mp hw
            cases heq
            exact ⟨u, hu, rfl⟩
          refine .object (List.pairwise_map.mpr hasc) (fun k w hw => ?_) (fun k w hw => ?_)
          · obtain ⟨u, hu, -⟩ := hcarry k w hw
            exact hkeys k u hu
          · obtain ⟨u, hu, rfl⟩ := hcarry k w hw
            rw [carryAt_eq]
            cases hv : lookup k members with
            | none => exact hkeep (h k u hu)
            | some v =>
                have hmem := mem_of_lookup_eq_some hv
                exact ih k v hmem (hmembers k v hmem) (h k u hu)
  | _ => exact hkeep hactual

/-! ## Bringing a document up to date -/

/-- A part of an actual document that stays readable among placeholders:
numbers are integers, and strings and keys hold no front of a placeholder and
no name of a sentinel. -/
def Value.Plain : Value → Prop
  | .float _ => False
  | .string s => Inert s
  | .object members => ∀ k v, (k, v) ∈ members → Inert k
  | _ => True

instance (v : Value) : Decidable v.Plain :=
  match v with
  | .float _ => isFalse id
  | .string s => inferInstanceAs (Decidable (Inert s))
  | .object members => decidable_of_iff (∀ p ∈ members, Inert p.1)
      ⟨fun h k v hmem => h (k, v) hmem, fun h p hmem => h p.1 p.2 hmem⟩
  | .null | .bool _ | .int _ | .nat _ | .array _ | .matcher _ => isTrue trivial

/-- The shape of a plain actual document. -/
theorem shaped_of_plain {v : Value} (h : ParsedShape depthLimit v)
    (hplain : v.Everywhere Value.Plain) : Shaped Value.Writable Inert depthLimit v := by
  refine (h.everywhere hplain).imp ?_ ?_
  · rintro w ⟨hparsed, hw⟩
    cases w with
    | nat n => exact hparsed
    | float x => exact absurd hw id
    | string s => exact hw
    | matcher m => exact absurd hparsed id
    | _ => trivial
  · rintro k ⟨-, members, hmembers, w, hmem⟩
    exact hmembers k w hmem

/-- **A document brought up to date reads back as the merged tree.**  Its text is
an expected document again, with the actual values and the old matchers. -/
theorem readExpected_updatedText {text : String} {bytes : List UInt8} {e : Expected} {a : Value}
    (he : readExpected text = .ok e) (ha : readActual bytes = .ok a)
    (hplain : a.Everywhere Value.Plain) (hquiet : e.root.Matchers Matcher.Quiet) :
    ∃ e', readExpected (updatedText e.root a) = .ok e' ∧
      e'.root = carryMatchers e.root a := by
  have hmatchers : e.root.Matchers fun m => m.HasArgument ∧ m.Quiet := fun w hw m hm =>
    ⟨matchers_readExpected he w hw m hm, hquiet w hw m hm⟩
  have hactual := shaped_of_plain (shaped_readActual ha) hplain
  have hcarried : Shaped Value.Writable Inert depthLimit (carryMatchers e.root a) := by
    refine (shaped_carryMatchers hmatchers hactual).imp ?_ fun _ hk => hk
    rintro w (hw | ⟨m, rfl, hm⟩)
    · exact hw
    · exact hm
  exact readExpected_templateText hcarried

/-- A pattern with braces and a quotation mark, a value with a brace, and an
actual document with another key and a longer list. -/
theorem updatedText_record :
    ∃ e a,
      readExpected ("\x7b\"id\": \"\x7b\x7banyInt\x7d\x7d\", \"tags\": [\"\x7b\x7bregex `" ++
        "a\x7b2\x7d\x7d\x7d\"b`\x7d\x7d\", \"\x7b\x7boneOf \\\"\x7d\\\"\x7d\x7d\"]\x7d") =
          .ok e ∧
      readActual ("\x7b\"id\":7,\"new\":null,\"tags\":[\"c\",\"x\\n\",-2]\x7d".toList.map
        fun c => UInt8.ofNat c.toNat) = .ok a ∧
      a.Everywhere Value.Plain ∧ e.root.Matchers Matcher.Quiet ∧
      ∃ e', readExpected (updatedText e.root a) = .ok e' ∧
        e'.root = carryMatchers e.root a := by
  obtain ⟨e, he, hquiet⟩ : ∃ e,
      readExpected ("\x7b\"id\": \"\x7b\x7banyInt\x7d\x7d\", \"tags\": [\"\x7b\x7bregex `" ++
        "a\x7b2\x7d\x7d\x7d\"b`\x7d\x7d\", \"\x7b\x7boneOf \\\"\x7d\\\"\x7d\x7d\"]\x7d") =
          .ok e ∧ e.root.Matchers Matcher.Quiet :=
    exists_ok_of_any (by decide +kernel)
  obtain ⟨a, ha, hplain⟩ : ∃ a,
      readActual ("\x7b\"id\":7,\"new\":null,\"tags\":[\"c\",\"x\\n\",-2]\x7d".toList.map
        fun c => UInt8.ofNat c.toNat) = .ok a ∧ a.Everywhere Value.Plain :=
    exists_ok_of_any (by decide +kernel)
  exact ⟨e, a, he, ha, hplain, hquiet, readExpected_updatedText he ha hplain hquiet⟩

end Expectation.Json
