import Expectation.Proofs.Json.Members
import Expectation.Proofs.Json.Scalars
import Expectation.Proofs.Json.Segments

/-!
# Reading printed trees back

The text of a tree over several lines is read as the tree.  This holds of trees
whose leaves are read back, whose keys ascend and which nest no deeper than the
reader goes.  Leaves that are no floating-point numbers are read back if
integers have the form in which they are read.

The proof follows the reader.  Each line of a block begins with a sign and
blanks, then comes a value, and what follows the value is the next line or the
end of the block, so that a number in it ends where it was written.

## Main results

* `value_prettyAt`: the text of a tree is taken off the front of an input.
* `readString_pretty`: the text of a tree, with the end of a line, reads as the
  tree.
-/

namespace Expectation.Json

/-! ## Lines -/

theorem skipSpace_lineBreak (depth : Nat) (rest : Input) :
    skipSpace (symbols (lineBreak depth) ++ rest) = skipSpace rest := by
  have hspace : ∀ s ∈ symbols (lineBreak depth), isSpace s = true := by
    intro s hs
    obtain ⟨c, hc, rfl⟩ := List.mem_map.mp hs
    rcases List.mem_cons.mp hc with rfl | hc
    · rfl
    · rw [List.eq_of_mem_replicate hc]
      rfl
  exact List.dropWhile_append_of_pos hspace

/-- The front of a value: no blank, and nothing that an array would take for
its own. -/
def Starts (cs : Input) : Prop :=
  ∃ c rest, cs = .char c :: rest ∧ isSpace (.char c) = false ∧ c ≠ ']' ∧ c ≠ ','

theorem Starts.skipSpace {cs : Input} (h : Starts cs) : skipSpace cs = cs := by
  obtain ⟨c, rest, rfl, hspace, -, -⟩ := h
  rw [Json.skipSpace, List.dropWhile_cons_of_neg (by simp [hspace])]

theorem Starts.append {cs : Input} (h : Starts cs) (rest : Input) : Starts (cs ++ rest) := by
  obtain ⟨c, tail, rfl, hc⟩ := h
  exact ⟨c, tail ++ rest, rfl, hc⟩

/-- The first item of an array. -/
theorem nextItem_first (depth : Nat) {cs : Input} (h : Starts cs) :
    nextItem true (symbols (lineBreak depth) ++ cs) = .ok (true, cs) := by
  have hskip := (skipSpace_lineBreak depth cs).trans h.skipSpace
  obtain ⟨c, rest, rfl, -, hbracket, hcomma⟩ := h
  simp [nextItem, hskip, hbracket, hcomma]

/-- Another item of an array. -/
theorem nextItem_comma (depth : Nat) {cs : Input} (h : Starts cs) :
    nextItem false (.char ',' :: (symbols (lineBreak depth) ++ cs)) = .ok (true, cs) := by
  have hskip := (skipSpace_lineBreak depth cs).trans h.skipSpace
  have hself : skipSpace (.char ',' :: (symbols (lineBreak depth) ++ cs)) =
      .char ',' :: (symbols (lineBreak depth) ++ cs) := rfl
  obtain ⟨c, rest, rfl, -, hbracket, hcomma⟩ := h
  simp [nextItem, hself, hskip, hbracket]

/-- The end of an array. -/
theorem nextItem_end (first : Bool) (depth : Nat) (rest : Input) :
    nextItem first (symbols (lineBreak depth) ++ .char ']' :: rest) = .ok (false, rest) := by
  have hskip := skipSpace_lineBreak depth (.char ']' :: rest)
  have hself : skipSpace (.char ']' :: rest) = .char ']' :: rest := rfl
  simp [nextItem, hskip, hself]

/-- The key of the first member of an object. -/
theorem nextKey_first (depth : Nat) (rest : Input) :
    nextKey true (symbols (lineBreak depth) ++ .char '"' :: rest) = .ok (true, rest) := by
  have hskip := skipSpace_lineBreak depth (.char '"' :: rest)
  have hself : skipSpace (.char '"' :: rest) = .char '"' :: rest := rfl
  simp [nextKey, hskip, hself]

/-- The key of another member. -/
theorem nextKey_comma (depth : Nat) (rest : Input) :
    nextKey false (.char ',' :: (symbols (lineBreak depth) ++ .char '"' :: rest)) =
      .ok (true, rest) := by
  have hskip := skipSpace_lineBreak depth (.char '"' :: rest)
  have hself : skipSpace (.char '"' :: rest) = .char '"' :: rest := rfl
  have hcomma : skipSpace (.char ',' :: (symbols (lineBreak depth) ++ .char '"' :: rest)) =
      .char ',' :: (symbols (lineBreak depth) ++ .char '"' :: rest) := rfl
  simp [nextKey, hcomma, hskip, hself]

/-- The end of an object. -/
theorem nextKey_end (first : Bool) (depth : Nat) (rest : Input) :
    nextKey first (symbols (lineBreak depth) ++ .char '\x7D' :: rest) = .ok (false, rest) := by
  have hskip := skipSpace_lineBreak depth (.char '\x7D' :: rest)
  have hself : skipSpace (.char '\x7D' :: rest) = .char '\x7D' :: rest := rfl
  simp [nextKey, hskip, hself]

/-- What follows a value inside a block: the next line, or the end of the block. -/
theorem ends_blockLines (depth outer : Nat) (lines : List (List Char)) (rest : Input) :
    Ends (symbols (blockLines depth ',' lines) ++ (symbols (lineBreak outer) ++ rest)) := by
  cases lines with
  | nil =>
      rintro s ⟨⟩
      exact .inr rfl
  | cons line lines =>
      rintro s ⟨⟩
      exact .inl rfl

theorem length_le_length_blockLines (depth : Nat) (sign : Char) (lines : List (List Char)) :
    lines.length ≤ (blockLines depth sign lines).length := by
  induction lines generalizing sign with
  | nil => exact Nat.le_refl 0
  | cons line lines ih =>
      have htail := ih ','
      simp only [blockLines, List.length_append, List.length_cons]
      omega

theorem length_prettyItems (depth : Nat) (vs : List Value) :
    (Value.prettyItems depth vs).length = vs.length := by
  induction vs with
  | nil => rfl
  | cons v vs ih => rw [Value.prettyItems, List.length_cons, List.length_cons, ih]

theorem length_prettyMembers (depth : Nat) (ms : List (String × Value)) :
    (Value.prettyMembers depth ms).length = ms.length := by
  induction ms with
  | nil => rfl
  | cons member ms ih => rw [Value.prettyMembers, List.length_cons, List.length_cons, ih]

/-- The text of a block that is not empty, line by line. -/
theorem symbols_block (opening closing : Char) (depth : Nat) (line : List Char)
    (lines : List (List Char)) (rest : Input) :
    symbols (blockLines (depth + 1) opening (line :: lines) ++
        blockEnd opening closing depth false) ++ rest =
      .char opening :: (symbols (lineBreak (depth + 1)) ++ (symbols line ++
        (symbols (blockLines (depth + 1) ',' lines) ++
          (symbols (lineBreak depth) ++ .char closing :: rest)))) := by
  simp [blockLines, blockEnd]

/-- The text of a member. -/
theorem symbols_memberLine (k text : String) (rest : Input) :
    symbols (quote k ++ ": " ++ text).toList ++ rest =
      .char '"' :: (symbols (escapeChars k.toList) ++ .char '"' :: .char ':' :: .char ' ' ::
        (symbols text.toList ++ rest)) := by
  simp [String.toList_append, toList_quote]

/-- The reader takes the text of a value at a depth off the front of an input. -/
def Reads (item : Reader Value) (depth : Nat) (v : Value) : Prop :=
  ∀ rest, Ends rest → item (symbols (v.prettyAt depth).toList ++ rest) = .ok (v, rest)

section Blocks

variable {item : Reader Value} {fuel : Nat} {first : Bool} {cs rest : Input}

/-! ## Arrays -/

/-- One item is read, and the loop goes on behind it. -/
theorem items_step {mid : Input} {v : Value} (hnext : nextItem first cs = .ok (true, mid))
    (hitem : item mid = .ok (v, rest)) :
    items item (fuel + 1) first cs =
      (items item fuel false rest).map fun (vs, after) => (v :: vs, after) := by
  simp only [items, hnext, hitem]

theorem items_stop (hnext : nextItem first cs = .ok (false, rest)) :
    items item (fuel + 1) first cs = .ok ([], rest) := by
  simp only [items, hnext]

/-- The lines of further items and the end of the array. -/
theorem items_blockLines {depth : Nat} {vs : List Value}
    (hstart : ∀ v ∈ vs, Starts (symbols (v.prettyAt depth).toList))
    (hitem : ∀ v ∈ vs, Reads item depth v) (outer : Nat) (rest : Input)
    (hfuel : vs.length < fuel) :
    items item fuel false
        (symbols (blockLines depth ',' ((Value.prettyItems depth vs).map String.toList)) ++
          (symbols (lineBreak outer) ++ .char ']' :: rest)) = .ok (vs, rest) := by
  induction vs generalizing fuel with
  | nil =>
      obtain ⟨fuel, rfl⟩ : ∃ n, fuel = n + 1 := ⟨fuel - 1, by omega⟩
      exact items_stop (nextItem_end false outer rest)
  | cons v vs ih =>
      rw [List.length_cons] at hfuel
      obtain ⟨fuel, rfl⟩ : ∃ n, fuel = n + 1 := ⟨fuel - 1, by omega⟩
      have htail := ih (fun w hw => hstart w (List.mem_cons_of_mem v hw))
        (fun w hw => hitem w (List.mem_cons_of_mem v hw)) (by omega : vs.length < fuel)
      have hv := hitem v List.mem_cons_self _ (ends_blockLines depth outer
        ((Value.prettyItems depth vs).map String.toList) (.char ']' :: rest))
      have hnext := nextItem_comma depth
        ((hstart v List.mem_cons_self).append (symbols (blockLines depth ','
          ((Value.prettyItems depth vs).map String.toList)) ++
            (symbols (lineBreak outer) ++ .char ']' :: rest)))
      rw [Value.prettyItems, List.map_cons, blockLines, symbols_append, symbols_append,
        symbols_cons, List.append_assoc, List.append_assoc, List.cons_append,
        items_step hnext hv, htail]
      rfl

/-- **Arrays are read back** when their items are. -/
theorem reads_array {depth : Nat} {vs : List Value}
    (hstart : ∀ v ∈ vs, Starts (symbols (v.prettyAt (depth + 1)).toList))
    (hitem : ∀ v ∈ vs, Reads item (depth + 1) v) :
    Reads (valueWith (some item)) depth (.array vs) := by
  intro rest hrest
  have hopen : ∀ cs : Input, valueWith (some item) (.char '[' :: cs) =
      (items item (cs.length + 1) true cs).map fun (vs, after) => (.array vs, after) :=
    fun _ => rfl
  rw [toList_prettyAt_array]
  cases vs with
  | nil =>
      have hstop : nextItem true (.char ']' :: rest) = .ok (false, rest) := rfl
      show valueWith (some item) (.char '[' :: .char ']' :: rest) = _
      rw [hopen, items_stop hstop]
      rfl
  | cons v vs =>
      have hlength := length_le_length_blockLines (depth + 1) ','
        ((Value.prettyItems (depth + 1) vs).map String.toList)
      rw [List.length_map, length_prettyItems] at hlength
      have hv := hitem v List.mem_cons_self _ (ends_blockLines (depth + 1) depth
        ((Value.prettyItems (depth + 1) vs).map String.toList) (.char ']' :: rest))
      have hnext := nextItem_first (depth + 1)
        ((hstart v List.mem_cons_self).append (symbols (blockLines (depth + 1) ','
          ((Value.prettyItems (depth + 1) vs).map String.toList)) ++
            (symbols (lineBreak depth) ++ .char ']' :: rest)))
      rw [Value.prettyItems, List.map_cons, List.isEmpty_cons, symbols_block, hopen,
        items_step hnext hv,
        items_blockLines (fun w hw => hstart w (List.mem_cons_of_mem v hw))
          (fun w hw => hitem w (List.mem_cons_of_mem v hw)) depth rest ?_]
      · rfl
      · simp only [symbols, List.length_append, List.length_map, List.length_cons]
        omega

/-! ## Objects -/

/-- One member is read, and the loop goes on behind it. -/
theorem members_step {mid : Input} {key : String} {v : Value}
    (hnext : nextKey first cs = .ok (true, symbols (escapeChars key.toList) ++
      .char '"' :: .char ':' :: mid))
    (hitem : item mid = .ok (v, rest)) :
    members item (fuel + 1) first cs =
      (members item fuel false rest).map fun (ms, after) => ((key, v) :: ms, after) := by
  have hcolon : colon (.char ':' :: mid) = .ok mid := rfl
  simp only [members, hnext, string_quote, hcolon, hitem]

theorem members_stop (hnext : nextKey first cs = .ok (false, rest)) :
    members item (fuel + 1) first cs = .ok ([], rest) := by
  simp only [members, hnext]

/-- The lines of further members and the end of the object. -/
theorem members_blockLines {depth : Nat} {ms : List (String × Value)}
    (hspace : ∀ cs, item (.char ' ' :: cs) = item cs)
    (hitem : ∀ k v, (k, v) ∈ ms → Reads item depth v) (outer : Nat) (rest : Input)
    (hfuel : ms.length < fuel) :
    members item fuel false
        (symbols (blockLines depth ',' ((Value.prettyMembers depth ms).map String.toList)) ++
          (symbols (lineBreak outer) ++ .char '\x7D' :: rest)) = .ok (ms, rest) := by
  induction ms generalizing fuel with
  | nil =>
      obtain ⟨fuel, rfl⟩ : ∃ n, fuel = n + 1 := ⟨fuel - 1, by omega⟩
      exact members_stop (nextKey_end false outer rest)
  | cons member ms ih =>
      obtain ⟨k, v⟩ := member
      rw [List.length_cons] at hfuel
      obtain ⟨fuel, rfl⟩ : ∃ n, fuel = n + 1 := ⟨fuel - 1, by omega⟩
      have htail := ih (fun l w hw => hitem l w (List.mem_cons_of_mem _ hw))
        (by omega : ms.length < fuel)
      have hv := hitem k v List.mem_cons_self _ (ends_blockLines depth outer
        ((Value.prettyMembers depth ms).map String.toList) (.char '\x7D' :: rest))
      rw [← hspace] at hv
      rw [Value.prettyMembers, List.map_cons, blockLines, symbols_append, symbols_append,
        symbols_cons, List.append_assoc, List.append_assoc, List.cons_append,
        symbols_memberLine, members_step (nextKey_comma depth _) hv, htail]
      rfl

/-- **Objects are read back** when their values are and their keys ascend. -/
theorem reads_object {depth : Nat} {ms : List (String × Value)} (hasc : Ascending ms)
    (hspace : ∀ cs, item (.char ' ' :: cs) = item cs)
    (hitem : ∀ k v, (k, v) ∈ ms → Reads item (depth + 1) v) :
    Reads (valueWith (some item)) depth (.object ms) := by
  intro rest hrest
  have hopen : ∀ cs : Input, valueWith (some item) (.char '\x7B' :: cs) =
      (members item (cs.length + 1) true cs).map
        fun (ms, after) => (.object (ofPairs ms), after) :=
    fun _ => rfl
  rw [toList_prettyAt_object]
  cases ms with
  | nil =>
      have hstop : nextKey true (.char '\x7D' :: rest) = .ok (false, rest) := rfl
      show valueWith (some item) (.char '\x7B' :: .char '\x7D' :: rest) = _
      rw [hopen, members_stop hstop]
      rfl
  | cons member ms =>
      obtain ⟨k, v⟩ := member
      have hlength := length_le_length_blockLines (depth + 1) ','
        ((Value.prettyMembers (depth + 1) ms).map String.toList)
      rw [List.length_map, length_prettyMembers] at hlength
      have hv := hitem k v List.mem_cons_self _ (ends_blockLines (depth + 1) depth
        ((Value.prettyMembers (depth + 1) ms).map String.toList) (.char '\x7D' :: rest))
      rw [← hspace] at hv
      rw [Value.prettyMembers, List.map_cons, List.isEmpty_cons, symbols_block, hopen,
        symbols_memberLine, members_step (nextKey_first (depth + 1) _) hv,
        members_blockLines hspace (fun l w hw => hitem l w (List.mem_cons_of_mem _ hw)) depth
          rest ?_]
      · show Except.ok (Value.object (ofPairs ((k, v) :: ms)), rest) = _
        rw [ofPairs_of_ascending hasc]
      · simp only [symbols, List.length_append, List.length_map, List.length_cons]
        omega

end Blocks

/-! ## Trees -/

theorem prettyAt_of_isLeaf {v : Value} (h : v.isLeaf = true) (depth : Nat) :
    v.prettyAt depth = scalarText v := by
  cases v with
  | array _ | object _ => exact absurd h (by simp)
  | _ => rfl

theorem starts_toDigits (n : Nat) : Starts (symbols (Nat.toDigits 10 n)) := by
  obtain ⟨c, cs, hcs⟩ := List.exists_cons_of_ne_nil (Nat.toDigits_ne_nil (n := n) (b := 10))
  have hc : c.isDigit = true :=
    Text.isDigit_of_mem_toDigits (hcs ▸ List.mem_cons_self : c ∈ Nat.toDigits 10 n)
  refine ⟨c, symbols cs, by rw [hcs]; rfl, isSpace_of_isDigit hc, ?_, ?_⟩
  · rintro rfl
    exact absurd hc (by decide)
  · rintro rfl
    exact absurd hc (by decide)

theorem starts_scalarText {v : Value} (hleaf : v.isLeaf = true) (h : v.Readable) :
    Starts (symbols (scalarText v).toList) := by
  cases v with
  | null => exact ⟨'n', _, rfl, rfl, by decide, by decide⟩
  | bool b =>
      cases b with
      | true => exact ⟨'t', _, rfl, rfl, by decide, by decide⟩
      | false => exact ⟨'f', _, rfl, rfl, by decide, by decide⟩
  | int i =>
      show Starts (symbols (toString i.toInt).toList)
      rw [Text.toList_toString_int]
      split
      · exact starts_toDigits _
      · exact ⟨'-', _, rfl, rfl, by decide, by decide⟩
  | nat n =>
      show Starts (symbols (toString n.toNat).toList)
      rw [Text.toList_toString_nat]
      exact starts_toDigits _
  | string s =>
      show Starts (symbols (quote s).toList)
      rw [toList_quote]
      exact ⟨'"', _, rfl, rfl, by decide, by decide⟩
  | float _ | matcher _ => exact absurd h id
  | array _ | object _ => exact absurd hleaf (by simp)

/-- A block begins with its bracket. -/
theorem starts_block {opening : Char} (hspace : isSpace (.char opening) = false)
    (hbracket : opening ≠ ']') (hcomma : opening ≠ ',') (closing : Char) (depth : Nat)
    (lines : List (List Char)) :
    Starts (symbols (blockLines (depth + 1) opening lines ++
      blockEnd opening closing depth lines.isEmpty)) := by
  cases lines with
  | nil => exact ⟨opening, _, rfl, hspace, hbracket, hcomma⟩
  | cons line lines => exact ⟨opening, _, rfl, hspace, hbracket, hcomma⟩

/-- A leaf whose text is read as the leaf, whatever ends behind it. -/
structure Value.Rereads (v : Value) : Prop where
  starts : Starts (symbols (scalarText v).toList)
  reads : ∀ (part : Option (Reader Value)) {rest : Input}, Ends rest →
    valueWith part (symbols (scalarText v).toList ++ rest) = .ok (v, rest)

theorem Value.Readable.rereads {v : Value} (h : v.Readable) (hleaf : v.isLeaf = true) :
    v.Rereads :=
  ⟨starts_scalarText hleaf h, fun part _ hrest => valueWith_scalarText part hleaf h hrest⟩

theorem Shaped.rereads {key : String → Prop} {n : Nat} {v : Value}
    (h : Shaped Value.Readable key n v) : Shaped Value.Rereads key n v :=
  h.imp_leaf (fun _ hleaf hw => hw.rereads hleaf) fun _ hk => hk

/-- A value begins with something that neither is a blank nor ends an item. -/
theorem starts_prettyAt (depth : Nat) {n : Nat} {key : String → Prop} {v : Value}
    (h : Shaped Value.Rereads key n v) : Starts (symbols (v.prettyAt depth).toList) := by
  cases h with
  | leaf hleaf h =>
      rw [prettyAt_of_isLeaf hleaf]
      exact h.starts
  | @array n items h =>
      have hempty : items.isEmpty =
          ((Value.prettyItems (depth + 1) items).map String.toList).isEmpty := by
        cases items <;> simp [Value.prettyItems]
      rw [toList_prettyAt_array, hempty]
      exact starts_block rfl (by decide) (by decide) ']' depth _
  | @object n members hasc hkeys h =>
      have hempty : members.isEmpty =
          ((Value.prettyMembers (depth + 1) members).map String.toList).isEmpty := by
        cases members <;> simp [Value.prettyMembers]
      rw [toList_prettyAt_object, hempty]
      exact starts_block rfl (by decide) (by decide) '\x7D' depth _

/-- Blanks in front of a value are passed. -/
theorem value_space (n : Nat) (cs : Input) : value n (.char ' ' :: cs) = value n cs := by
  cases n <;> rfl

/-- **Trees are read back.** -/
theorem value_prettyAt {n : Nat} {key : String → Prop} {v : Value}
    (h : Shaped Value.Rereads key n v) (depth : Nat) : Reads (value n) depth v := by
  induction h generalizing depth with
  | @leaf n v hleaf h =>
      intro rest hrest
      rw [prettyAt_of_isLeaf hleaf]
      cases n with
      | zero => exact h.reads none hrest
      | succ n => exact h.reads (some (value n)) hrest
  | array h ih =>
      exact reads_array (fun v hv => starts_prettyAt (depth + 1) (h v hv))
        fun v hv => ih v hv (depth + 1)
  | object hasc hkeys h ih =>
      exact reads_object hasc (value_space _) fun k v hv => ih k v hv (depth + 1)

/-- **The text of a tree, with the end of a line, reads as the tree.** -/
theorem readString_pretty {key : String → Prop} {v : Value}
    (h : Shaped Value.Rereads key depthLimit v) : readString (v.pretty ++ "\n") = .ok v := by
  have hends : Ends [.char '\n'] := by
    rintro s ⟨⟩
    exact .inr rfl
  have hinput : Input.ofString (v.pretty ++ "\n") =
      symbols (v.prettyAt 0).toList ++ [.char '\n'] := by
    rw [Input.ofString, String.toList_append, List.map_append]
    rfl
  have hvalue := value_prettyAt h 0 [.char '\n'] hends
  have hatEnd : atEnd [.char '\n'] = .ok () := rfl
  rw [readString, read, document, hinput, hvalue]
  simp only [hatEnd]
  rfl

end Expectation.Json
