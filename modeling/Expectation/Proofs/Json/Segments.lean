import Expectation.Proofs.Json.Filling
import Expectation.Proofs.Json.Shape

/-!
# The text of a tree with matchers

The text of a tree over several lines is a list of segments: the matchers are
placeholders in quotation marks, everything else is characters.  This file
gives the segments by recursion on the tree and shows that they are what the
writer writes: spelled with sentinels they are the text of the tree in which
sentinels stand for the matchers, and when the sentinels are fresh, filling in
the expressions writes them out.

## Main results

* `toList_block`: a block of lines, from front to back.
* `spells_segments`: the text of the tree with sentinels.
* `Built.segments`: what the pieces of a tree keep, its segments have.
* `toList_templateText_iff`: the text of the tree with the expressions.
-/

namespace Expectation.Json

open Placeholder

/-! ## Blocks of lines -/

/-- The end of a line and the front of the next one, at a depth. -/
def lineBreak (depth : Nat) : List Char := '\n' :: List.replicate (2 * depth) ' '

/-- Lines at a depth, each behind a sign: the first behind the given one, the
others behind commas. -/
def blockLines (depth : Nat) (sign : Char) : List (List Char) → List Char
  | [] => []
  | line :: rest => sign :: lineBreak depth ++ (line ++ blockLines depth ',' rest)

/-- What stands behind the lines of a block. Without lines that is all of it. -/
def blockEnd (opening closing : Char) (depth : Nat) (empty : Bool) : List Char :=
  if empty then [opening, closing] else lineBreak depth ++ [closing]

theorem intercalate_eq_blockLines (depth : Nat) (line : List Char) (rest : List (List Char)) :
    List.intercalate [',', '\n'] ((line :: rest).map (List.replicate (2 * depth) ' ' ++ ·)) =
      List.replicate (2 * depth) ' ' ++ line ++ blockLines depth ',' rest := by
  induction rest generalizing line with
  | nil => simp [blockLines]
  | cons next rest ih =>
      have htail := ih next
      rw [List.map_cons] at htail ⊢
      rw [List.map_cons, List.intercalate_cons_cons, htail]
      simp [blockLines, lineBreak]

/-- **A block, from front to back.** -/
theorem toList_block (opening closing : Char) (depth : Nat) (lines : List String) :
    (Value.block (String.ofList [opening]) (String.ofList [closing]) depth lines).toList =
      blockLines (depth + 1) opening (lines.map String.toList) ++
        blockEnd opening closing depth lines.isEmpty := by
  cases lines with
  | nil => simp [Value.block, blockLines, blockEnd]
  | cons line rest =>
      have hlines : ((line :: rest).map (Value.indent (depth + 1) ++ ·)).map String.toList =
          ((line :: rest).map String.toList).map
            (List.replicate (2 * (depth + 1)) ' ' ++ ·) := by
        simp [Value.indent, Function.comp_def]
      have hinner := intercalate_eq_blockLines (depth + 1) line.toList (rest.map String.toList)
      rw [← List.map_cons, ← hlines] at hinner
      have hindent : (Value.indent depth).toList = List.replicate (2 * depth) ' ' :=
        String.toList_ofList
      have hcomma : ",\n".toList = [',', '\n'] := rfl
      simp only [Value.block, List.isEmpty_cons, Bool.false_eq_true, if_false,
        String.toList_append, String.toList_intercalate, hcomma, hinner, hindent]
      simp [blockLines, blockEnd, lineBreak]

/-! ## Segments -/

mutual

/-- The segments of a tree over several lines, at a depth. -/
def segments (depth : Nat) : Value → List Segment
  | .matcher m => [.char '"', .placeholder m.expression.toList false, .char '"']
  | .array items =>
    itemSegments (depth + 1) '[' items ++ (blockEnd '[' ']' depth items.isEmpty).map .char
  | .object members =>
    memberSegments (depth + 1) '\x7B' members ++
      (blockEnd '\x7B' '\x7D' depth members.isEmpty).map .char
  | v => (scalarText v).toList.map .char

/-- The segments of items at a depth, the first behind the given sign. -/
def itemSegments (depth : Nat) (sign : Char) : List Value → List Segment
  | [] => []
  | v :: vs =>
    (sign :: lineBreak depth).map .char ++ (segments depth v ++ itemSegments depth ',' vs)

/-- The segments of members at a depth, the first behind the given sign. -/
def memberSegments (depth : Nat) (sign : Char) : List (String × Value) → List Segment
  | [] => []
  | (k, v) :: ms =>
    (sign :: lineBreak depth).map .char ++ ((quote k).toList.map .char ++
      ([':', ' '].map .char ++ (segments depth v ++ memberSegments depth ',' ms)))

end

theorem toList_prettyAt_array (depth : Nat) (items : List Value) :
    ((Value.array items).prettyAt depth).toList =
      blockLines (depth + 1) '[' ((Value.prettyItems (depth + 1) items).map String.toList) ++
        blockEnd '[' ']' depth items.isEmpty := by
  have hempty : (Value.prettyItems (depth + 1) items).isEmpty = items.isEmpty := by
    cases items <;> rfl
  rw [Value.prettyAt, ← hempty]
  exact toList_block '[' ']' depth _

theorem toList_prettyAt_object (depth : Nat) (members : List (String × Value)) :
    ((Value.object members).prettyAt depth).toList =
      blockLines (depth + 1) '\x7B'
          ((Value.prettyMembers (depth + 1) members).map String.toList) ++
        blockEnd '\x7B' '\x7D' depth members.isEmpty := by
  have hempty : (Value.prettyMembers (depth + 1) members).isEmpty = members.isEmpty := by
    cases members <;> rfl
  rw [Value.prettyAt, ← hempty]
  exact toList_block '\x7B' '\x7D' depth _

/-! ## Spelling with sentinels -/

/-- Counted from the expressions collected so far, the segments spell the text,
and with their own expressions the collection is the second one. -/
structure Spells (collected : List String) (segments : List Segment) (text : List Char)
    (collected' : List String) : Prop where
  text : spell collected.length segments = text
  collected : collected' = collected ++ expressionsOf segments

theorem spells_chars (collected : List String) (cs : List Char) :
    Spells collected (cs.map .char) cs collected := by
  have hspell := spell_chars collected.length cs []
  have hexpressions := expressionsOf_chars cs []
  simp only [List.append_nil] at hspell hexpressions
  refine ⟨?_, ?_⟩
  · rw [hspell]
    exact List.append_nil cs
  · rw [hexpressions]
    exact (List.append_nil collected).symm

theorem Spells.append {first second third : List String} {a b : List Segment}
    {text text' : List Char} (ha : Spells first a text second)
    (hb : Spells second b text' third) : Spells first (a ++ b) (text ++ text') third := by
  have hlength : first.length + (expressionsOf a).length = second.length := by
    rw [ha.collected, List.length_append]
  have hexpressions : expressionsOf (a ++ b) = expressionsOf a ++ expressionsOf b :=
    List.filterMap_append
  refine ⟨?_, ?_⟩
  · rw [spell_append, ha.text, hlength, hb.text]
  · rw [hb.collected, ha.collected, hexpressions, List.append_assoc]

theorem spells_itemSegments {depth : Nat} {items : List Value}
    (ih : ∀ v ∈ items, ∀ collected, Spells collected (segments depth v)
      ((withSentinels collected v).1.prettyAt depth).toList (withSentinels collected v).2)
    (collected : List String) (sign : Char) :
    Spells collected (itemSegments depth sign items)
      (blockLines depth sign
        ((Value.prettyItems depth (itemsWithSentinels collected items).1).map String.toList))
      (itemsWithSentinels collected items).2 := by
  induction items generalizing collected sign with
  | nil => exact spells_chars collected []
  | cons v vs ihs =>
      have hv := ih v List.mem_cons_self collected
      have hvs := ihs (fun w hw => ih w (List.mem_cons_of_mem v hw))
        (withSentinels collected v).2 ','
      exact (spells_chars collected (sign :: lineBreak depth)).append (hv.append hvs)

theorem spells_memberSegments {depth : Nat} {members : List (String × Value)}
    (ih : ∀ k v, (k, v) ∈ members → ∀ collected, Spells collected (segments depth v)
      ((withSentinels collected v).1.prettyAt depth).toList (withSentinels collected v).2)
    (collected : List String) (sign : Char) :
    Spells collected (memberSegments depth sign members)
      (blockLines depth sign
        ((Value.prettyMembers depth (membersWithSentinels collected members).1).map
          String.toList))
      (membersWithSentinels collected members).2 := by
  induction members generalizing collected sign with
  | nil => exact spells_chars collected []
  | cons member ms ihs =>
      obtain ⟨k, v⟩ := member
      have hv := ih k v List.mem_cons_self collected
      have hms := ihs (fun l w hw => ih l w (List.mem_cons_of_mem _ hw))
        (withSentinels collected v).2 ','
      have hline := (spells_chars collected (sign :: lineBreak depth)).append
        ((spells_chars collected (quote k).toList).append
          ((spells_chars collected [':', ' ']).append (hv.append hms)))
      have htext : (quote k ++ ": " ++
          (withSentinels collected v).1.prettyAt depth).toList =
            (quote k).toList ++ ([':', ' '] ++
              ((withSentinels collected v).1.prettyAt depth).toList) := by
        rw [String.toList_append, String.toList_append, List.append_assoc]
        rfl
      show Spells collected _ (sign :: lineBreak depth ++ ((quote k ++ ": " ++
        (withSentinels collected v).1.prettyAt depth).toList ++ _)) _
      rw [htext, List.append_assoc, List.append_assoc]
      exact hline

/-- A sentinel needs no escapes. -/
theorem toList_quote_sentinel (i : Nat) :
    (quote (String.ofList (sentinel i))).toList = '"' :: sentinel i ++ ['"'] := by
  have hplain : escapeChars (sentinel i) = sentinel i := by
    refine escapeChars_eq_self fun c hc => ?_
    rcases of_mem_sentinel hc with hfront | hdigit
    · have hall : ∀ d ∈ sentinelFront, d ≠ '"' ∧ d ≠ '\\' ∧ 0x20 ≤ d.toNat :=
        List.all_iff_forall_prop.mp (by decide)
      exact hall c hfront
    · have hbound : '0'.toNat ≤ c.toNat := (Char.isDigit_iff_toNat.mp hdigit).1
      refine ⟨?_, ?_, Nat.le_trans (by decide) hbound⟩
      · rintro rfl
        exact absurd hdigit (by decide)
      · rintro rfl
        exact absurd hdigit (by decide)
  rw [toList_quote, String.toList_ofList, hplain]

/-- **The text with sentinels.**  The segments of a tree spell the text of the
tree in which sentinels stand for the matchers. -/
theorem spells_segments (collected : List String) (depth : Nat) (v : Value) :
    Spells collected (segments depth v)
      ((withSentinels collected v).1.prettyAt depth).toList (withSentinels collected v).2 := by
  induction v generalizing collected depth with
  | matcher m =>
      have hexpression : String.ofList m.expression.toList = m.expression :=
        String.ofList_toList
      refine ⟨?_, ?_⟩
      · show _ = (quote (String.ofList (sentinel collected.length))).toList
        rw [toList_quote_sentinel]
        simp [segments, spell]
      · show collected ++ [m.expression] = _
        simp [segments, expressionsOf, hexpression]
  | array items ih =>
      have hitems := spells_itemSegments
        (fun v hv collected => ih v hv collected (depth + 1)) collected '['
      have hempty : (itemsWithSentinels collected items).1.isEmpty = items.isEmpty := by
        cases items <;> rfl
      have hblock := hitems.append
        (spells_chars _ (blockEnd '[' ']' depth items.isEmpty))
      rw [← hempty, ← toList_prettyAt_array, hempty] at hblock
      exact hblock
  | object members ih =>
      have hmembers := spells_memberSegments
        (fun k v hv collected => ih k v hv collected (depth + 1)) collected '\x7B'
      have hempty : (membersWithSentinels collected members).1.isEmpty = members.isEmpty := by
        cases members <;> rfl
      have hblock := hmembers.append
        (spells_chars _ (blockEnd '\x7B' '\x7D' depth members.isEmpty))
      rw [← hempty, ← toList_prettyAt_object, hempty] at hblock
      exact hblock
  | _ => exact spells_chars collected _

/-! ## Building -/

/-- A property of segments that survives putting the pieces of a tree in front: signs with the
lines behind them, the ends of blocks, keys, and leaves.  The parts of the tree have a property
of their own. -/
structure Built (good : List Segment → Prop) (part : Value → Prop) : Prop where
  line {sign : Char} {depth : Nat} {rest : List Segment} (hsign : sign ∈ ['[', '\x7B', ','])
    (h : good rest) : good ((sign :: lineBreak depth).map .char ++ rest)
  close {opening closing : Char} {depth : Nat} {empty : Bool} {rest : List Segment}
    (hbrackets : (opening, closing) ∈ [('[', ']'), ('\x7B', '\x7D')]) (h : good rest) :
    good ((blockEnd opening closing depth empty).map .char ++ rest)
  key {members : List (String × Value)} {k : String} {v : Value} {rest : List Segment}
    (hpart : part (.object members)) (hmem : (k, v) ∈ members) (h : good rest) :
    good ((quote k).toList.map .char ++ ([':', ' '].map .char ++ rest))
  leaf {v : Value} {depth : Nat} {rest : List Segment} (hleaf : v.isLeaf = true)
    (hpart : part v) (h : good rest) : good (segments depth v ++ rest)

section Built

variable {good : List Segment → Prop} {part : Value → Prop}

theorem Built.itemSegments (h : Built good part) {depth : Nat} {items : List Value}
    (ih : ∀ v ∈ items, ∀ rest, good rest → good (segments depth v ++ rest)) {sign : Char}
    (hsign : sign ∈ ['[', '\x7B', ',']) {rest : List Segment} (hrest : good rest) :
    good (itemSegments depth sign items ++ rest) := by
  induction items generalizing sign with
  | nil => exact hrest
  | cons v vs ihs =>
      have hvs := ihs (fun w hw => ih w (List.mem_cons_of_mem v hw))
        (by decide : ',' ∈ ['[', '\x7B', ','])
      have hv := ih v List.mem_cons_self _ hvs
      rw [Json.itemSegments, List.append_assoc, List.append_assoc]
      exact h.line hsign hv

theorem Built.memberSegments (h : Built good part) {depth : Nat}
    {all members : List (String × Value)} (hpart : part (.object all))
    (hall : ∀ k v, (k, v) ∈ members → (k, v) ∈ all)
    (ih : ∀ k v, (k, v) ∈ members → ∀ rest, good rest → good (segments depth v ++ rest))
    {sign : Char} (hsign : sign ∈ ['[', '\x7B', ',']) {rest : List Segment} (hrest : good rest) :
    good (memberSegments depth sign members ++ rest) := by
  induction members generalizing sign with
  | nil => exact hrest
  | cons member ms ihs =>
      obtain ⟨k, v⟩ := member
      have hms := ihs (fun l w hw => hall l w (List.mem_cons_of_mem _ hw))
        (fun l w hw => ih l w (List.mem_cons_of_mem _ hw)) (by decide : ',' ∈ ['[', '\x7B', ','])
      have hv := ih k v List.mem_cons_self _ hms
      have hline := h.key hpart (hall k v List.mem_cons_self) hv
      rw [Json.memberSegments, List.append_assoc, List.append_assoc, List.append_assoc,
        List.append_assoc]
      exact h.line hsign hline

/-- **A property that the pieces keep** holds of the segments of a tree, with anything behind
them that has it. -/
theorem Built.segments (h : Built good part) {v : Value} (hv : v.Everywhere part) (depth : Nat)
    {rest : List Segment} (hrest : good rest) : good (segments depth v ++ rest) := by
  induction v generalizing depth rest with
  | array items ih =>
      have hparts := (Value.everywhere_array.mp hv).2
      rw [Json.segments, List.append_assoc]
      exact h.itemSegments (fun v hmem rest => ih v hmem (hparts v hmem) (depth + 1)) (by decide)
        (h.close (by decide) hrest)
  | object members ih =>
      obtain ⟨hself, hparts⟩ := Value.everywhere_object.mp hv
      rw [Json.segments, List.append_assoc]
      exact h.memberSegments hself (fun k v hmem => hmem)
        (fun k v hmem rest => ih k v hmem (hparts k v hmem) (depth + 1)) (by decide)
        (h.close (by decide) hrest)
  | _ => exact h.leaf rfl hv.self hrest

end Built

/-! ## Filling in the expressions -/

/-- Matchers are written between quotation marks. -/
theorem built_framed : Built Framed fun _ => True where
  line _ h := framed_chars h _
  close _ h := framed_chars h _
  key _ _ h := framed_chars (framed_chars h _) _
  leaf := by
    intro v depth rest hleaf _ hrest
    cases v with
    | matcher m => exact .mark (.char hrest)
    | array _ | object _ => exact absurd hleaf (by simp)
    | _ => exact framed_chars hrest _

theorem framed_segments (v : Value) : Framed (segments 0 v) := by
  have hrest := built_framed.segments (v := v) (fun w hw => trivial) 0 .nil
  rwa [List.append_nil] at hrest

/-- **The text with the expressions** is that of the segments exactly if the sentinels are
fresh. -/
theorem toList_templateText_iff (v : Value) :
    (templateText v).toList = written (segments 0 v) ↔ Fresh 0 [] (segments 0 v) := by
  have hspells := spells_segments [] 0 v
  have htext : (withSentinels [] v).1.pretty.toList = spell 0 (segments 0 v) := hspells.text.symm
  have hexpressions : (withSentinels [] v).2 = expressionsOf (segments 0 v) := hspells.collected
  have hfill := fillSentinels_spell_iff (framed_segments v) 0 []
  rw [List.nil_append, List.nil_append, ← htext, ← hexpressions] at hfill
  rw [templateText, String.toList_ofList]
  exact hfill

end Expectation.Json
