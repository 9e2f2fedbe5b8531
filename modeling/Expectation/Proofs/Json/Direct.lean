import Expectation.Proofs.Json.Legibility
import Expectation.Proofs.Json.Numerals

/-!
# Matchers written in their places

The simplest way to write a tree with matchers is to write each matcher where it
stands, between quotation marks and without escapes.  The text of an expected
document is made in another way, by filling in expressions for sentinels, and
this file says when the two agree.

They do so exactly if nothing in front of a matcher looks like its sentinel.
Strings and keys are written before the expressions are filled in, and an
expression is before the next ones are.  Where one of them holds the sentinel of
a matcher behind it, it gets the expression, and the matcher keeps the sentinel.

## Main results

* `toList_directText`: the direct text is what the segments stand for.
* `templateText_eq_directText_iff`: the trees that are written as they are.
* `templateText_misplaced`: a tree that is not.
-/

namespace Expectation.Json

open Placeholder
open Text (Lacks)

/-! ## The direct text -/

mutual

/-- The tree over several lines, at a depth, with each matcher in its place. -/
def directAt (depth : Nat) : Value → String
  | .matcher m => "\"" ++ m.describe ++ "\""
  | .array items => Value.block "[" "]" depth (directItems (depth + 1) items)
  | .object members => Value.block "\x7B" "\x7D" depth (directMembers (depth + 1) members)
  | v => scalarText v

def directItems (depth : Nat) : List Value → List String
  | [] => []
  | v :: vs => directAt depth v :: directItems depth vs

def directMembers (depth : Nat) : List (String × Value) → List String
  | [] => []
  | (k, v) :: ms => (quote k ++ ": " ++ directAt depth v) :: directMembers depth ms

end

/-- The tree over several lines, with each matcher in its place. -/
def directText (v : Value) : String := directAt 0 v

theorem written_map_char (cs : List Char) : written (cs.map .char) = cs := by
  have hcs := written_chars cs []
  rwa [List.append_nil, written, List.append_nil] at hcs

theorem written_itemSegments {depth : Nat} {items : List Value}
    (ih : ∀ v ∈ items, (directAt depth v).toList = written (segments depth v)) (sign : Char) :
    blockLines depth sign ((directItems depth items).map String.toList) =
      written (itemSegments depth sign items) := by
  induction items generalizing sign with
  | nil => rfl
  | cons v vs ihs =>
      have hv := ih v List.mem_cons_self
      have hvs := ihs (fun w hw => ih w (List.mem_cons_of_mem v hw)) ','
      rw [directItems, List.map_cons, blockLines, itemSegments, written_chars, written_append,
        hv, hvs]

theorem written_memberSegments {depth : Nat} {members : List (String × Value)}
    (ih : ∀ k v, (k, v) ∈ members → (directAt depth v).toList = written (segments depth v))
    (sign : Char) :
    blockLines depth sign ((directMembers depth members).map String.toList) =
      written (memberSegments depth sign members) := by
  induction members generalizing sign with
  | nil => rfl
  | cons member ms ihs =>
      obtain ⟨k, v⟩ := member
      have hv := ih k v List.mem_cons_self
      have hms := ihs (fun l w hw => ih l w (List.mem_cons_of_mem _ hw)) ','
      rw [directMembers, List.map_cons, blockLines, memberSegments, written_chars, written_chars,
        written_chars, written_append, String.toList_append, String.toList_append, hv, hms,
        List.append_assoc, List.append_assoc]
      rfl

theorem toList_directAt (v : Value) (depth : Nat) :
    (directAt depth v).toList = written (segments depth v) := by
  induction v generalizing depth with
  | matcher m =>
      have hbrace : Matcher.brace (String.ofList m.expression.toList) = m.describe := by
        rw [String.ofList_toList, Matcher.describe]
      rw [segments, written, written_placeholder, hbrace, directAt, String.toList_append,
        String.toList_append, List.append_assoc]
      rfl
  | array items ih =>
      have hempty : (directItems (depth + 1) items).isEmpty = items.isEmpty := by
        cases items <;> rfl
      have hblock := toList_block '[' ']' depth (directItems (depth + 1) items)
      rw [hempty, written_itemSegments fun v hv => ih v hv (depth + 1)] at hblock
      rw [segments, written_append, written_map_char]
      exact hblock
  | object members ih =>
      have hempty : (directMembers (depth + 1) members).isEmpty = members.isEmpty := by
        cases members <;> rfl
      have hblock := toList_block '\x7B' '\x7D' depth (directMembers (depth + 1) members)
      rw [hempty, written_memberSegments fun k v hv => ih k v hv (depth + 1)] at hblock
      rw [segments, written_append, written_map_char]
      exact hblock
  | _ => exact (written_map_char _).symm

/-- **The direct text** is what the segments of the tree stand for. -/
theorem toList_directText (v : Value) : (directText v).toList = written (segments 0 v) :=
  toList_directAt v 0

/-! ## Trees without sentinels -/

/-- A part of a tree that holds no front of a sentinel, in a string, in the expression of a
matcher or in a key. -/
def Value.Unmarked : Value → Prop
  | .string s => Lacks sentinelFront s.toList
  | .matcher m => Lacks sentinelFront m.expression.toList
  | .object members => ∀ k v, (k, v) ∈ members → Lacks sentinelFront k.toList
  | _ => True

instance (v : Value) : Decidable v.Unmarked :=
  match v with
  | .string s => inferInstanceAs (Decidable (Lacks sentinelFront s.toList))
  | .matcher m => inferInstanceAs (Decidable (Lacks sentinelFront m.expression.toList))
  | .object members => decidable_of_iff (∀ p ∈ members, Lacks sentinelFront p.1.toList)
      ⟨fun h k v hmem => h (k, v) hmem, fun h p hmem => h p.1 p.2 hmem⟩
  | .null | .bool _ | .int _ | .nat _ | .float _ | .array _ => isTrue trivial

/-- The characters of a number are in no sentinel. -/
theorem lacks_numeral {cs : List Char} (h : ∀ c ∈ cs, IsNumeral c) :
    ∀ c ∈ cs, c ∉ sentinelFront := by
  have hall : ∀ d ∈ sentinelFront, ¬ IsNumeral d := List.all_iff_forall_prop.mp (by decide)
  exact fun c hc hfront => hall c hfront (h c hc)

theorem lineBreak_free (depth : Nat) : ∀ c ∈ lineBreak depth, c ∉ sentinelFront :=
  fun c hc hfront => lineBreak_not_guarded depth c hc
    (List.mem_cons_of_mem _ (List.mem_cons_of_mem _ hfront))

theorem lacks_leaf {v : Value} (hleaf : v.isLeaf = true) (h : v.Unmarked) (depth : Nat)
    {rest : List Segment} (hrest : Lacks sentinelFront (written rest)) :
    Lacks sentinelFront (written (segments depth v ++ rest)) := by
  cases v with
  | null => exact lacks_written_chars (List.all_iff_forall_prop.mp (by decide)) hrest
  | bool b =>
      cases b <;> exact lacks_written_chars (List.all_iff_forall_prop.mp (by decide)) hrest
  | int i => exact lacks_written_chars (lacks_numeral (isNumeral_toString i.toInt)) hrest
  | nat n => exact lacks_written_chars (lacks_numeral (isNumeral_toString n.toNat)) hrest
  | float x => exact lacks_written_chars (lacks_numeral (isNumeral_floatText x)) hrest
  | string s => exact lacks_written_quote h hrest
  | matcher m => exact lacks_written_mark h hrest
  | array _ | object _ => exact absurd hleaf (by simp)

/-- **The text of a tree without sentinels** holds none, as none of its pieces does. -/
theorem built_lacks :
    Built (fun segments => Lacks sentinelFront (written segments)) Value.Unmarked where
  line {sign depth rest} hsign h := by
    have hall : ∀ c ∈ ['[', '\x7B', ','], c ∉ sentinelFront :=
      List.all_iff_forall_prop.mp (by decide)
    exact lacks_written_chars
      (List.forall_mem_cons.mpr ⟨hall sign hsign, lineBreak_free depth⟩) h
  close {opening closing depth empty rest} hbrackets h := by
    have hall : ∀ b ∈ [('[', ']'), ('\x7B', '\x7D')],
        b.1 ∉ sentinelFront ∧ b.2 ∉ sentinelFront :=
      List.all_iff_forall_prop.mp (by decide)
    obtain ⟨hopening, hclosing⟩ := hall _ hbrackets
    have hend : ∀ c ∈ [closing], c ∉ sentinelFront := List.forall_mem_singleton.mpr hclosing
    cases empty with
    | true => exact lacks_written_chars (List.forall_mem_cons.mpr ⟨hopening, hend⟩) h
    | false =>
        exact lacks_written_chars (List.forall_mem_append.mpr ⟨lineBreak_free depth, hend⟩) h
  key {members k v rest} hpart hmem h := by
    have hcolon : ∀ c ∈ [':', ' '], c ∉ sentinelFront :=
      List.all_iff_forall_prop.mp (by decide)
    exact lacks_written_quote (hpart k v hmem) (lacks_written_chars hcolon h)
  leaf {v depth rest} hleaf hpart h := lacks_leaf hleaf hpart depth h

/-! ## Filling in and writing directly -/

/-- **The trees that are written as they are.**  The text of an expected document has every
matcher in its place exactly if nothing in front of a matcher holds its sentinel.  In particular
it does if no string, no key and no expression holds the front of a sentinel. -/
theorem templateText_eq_directText_iff (v : Value) :
    (templateText v = directText v ↔ Fresh 0 [] (segments 0 v)) ∧
      (v.Everywhere Value.Unmarked → templateText v = directText v) := by
  have hiff : templateText v = directText v ↔ Fresh 0 [] (segments 0 v) := by
    rw [← toList_templateText_iff, ← toList_directText, String.toList_inj]
  refine ⟨hiff, fun h => hiff.mpr (fresh_of_lacks ?_)⟩
  have hnil : Lacks sentinelFront (written []) := by decide
  have hlacks := built_lacks.segments h 0 hnil
  rwa [List.append_nil] at hlacks

/-- A key and a value that need escapes. -/
theorem templateText_eq_directText_record :
    (Value.object [("a\"", .matcher (.oneOf ["x\\"])), ("b", .array [.null])]).Everywhere
        Value.Unmarked ∧
      templateText (.object [("a\"", .matcher (.oneOf ["x\\"])), ("b", .array [.null])]) =
        directText (.object [("a\"", .matcher (.oneOf ["x\\"])), ("b", .array [.null])]) := by
  have h : (Value.object [("a\"", .matcher (.oneOf ["x\\"])), ("b", .array [.null])]).Everywhere
      Value.Unmarked := by decide
  exact ⟨h, (templateText_eq_directText_iff _).2 h⟩

/-- **A sentinel in front of its matcher** takes the expression, and the matcher is written as
the sentinel. -/
theorem templateText_misplaced :
    templateText (.object [("a", .string "__MATCHER_0__"), ("b", .matcher .anyInt)]) =
        "\x7B\n  \"a\": \"\x7B\x7BanyInt\x7D\x7D\",\n  \"b\": \"__MATCHER_0__\"\n\x7D" ∧
      templateText (.object [("a", .string "__MATCHER_0__"), ("b", .matcher .anyInt)]) ≠
        directText (.object [("a", .string "__MATCHER_0__"), ("b", .matcher .anyInt)]) := by
  decide +kernel

end Expectation.Json
