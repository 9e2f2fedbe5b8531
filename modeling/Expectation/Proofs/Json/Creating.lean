import Expectation.Proofs.Json.Numerals
import Expectation.Proofs.SelfCheck

/-!
# Creating an expected document

A document that is seen for the first time is written as it is, and its text is
the expected document from then on.  In place of an expected document a text is
read with other eyes: two opening braces begin a placeholder, also where the
document had them in a string, and numbers are rounded once more.  If neither
makes a difference, the document matches the text that was created from it.

## Main results

* `templateText_of_matcherFree`: a document without matchers is written as it is.
* `check_initialText`: a document matches the text that was created from it if its
  strings hold no front of a placeholder and its numbers are read back.
* `check_initialText_placeholder`, `check_initialText_float`: otherwise it need not.
-/

namespace Expectation.Json

open Text (Lacks utf8)

/-! ## Documents without matchers -/

theorem itemsWithSentinels_self {vs : List Value} {collected : List String}
    (h : ∀ v ∈ vs, withSentinels collected v = (v, collected)) :
    itemsWithSentinels collected vs = (vs, collected) := by
  induction vs with
  | nil => rfl
  | cons v vs ih =>
      have hvs := ih fun w hw => h w (List.mem_cons_of_mem v hw)
      simp only [itemsWithSentinels, h v List.mem_cons_self, hvs]

theorem membersWithSentinels_self {ms : List (String × Value)} {collected : List String}
    (h : ∀ k v, (k, v) ∈ ms → withSentinels collected v = (v, collected)) :
    membersWithSentinels collected ms = (ms, collected) := by
  induction ms with
  | nil => rfl
  | cons member ms ih =>
      obtain ⟨k, v⟩ := member
      have hms := ih fun l w hw => h l w (List.mem_cons_of_mem _ hw)
      simp only [membersWithSentinels, h k v List.mem_cons_self, hms]

theorem withSentinels_self {v : Value} (h : v.MatcherFree) (collected : List String) :
    withSentinels collected v = (v, collected) := by
  induction v with
  | array items ih =>
      rw [withSentinels, itemsWithSentinels_self fun v hv => ih v hv (h.items v hv)]
  | object members ih =>
      rw [withSentinels, membersWithSentinels_self fun k v hv => ih k v hv (h.members k v hv)]
  | matcher m => exact absurd h.self (Option.some_ne_none m)
  | _ => rfl

/-- **A document without matchers is written as it is.** -/
theorem templateText_of_matcherFree {v : Value} (h : v.MatcherFree) :
    templateText v = v.pretty := by
  simp only [templateText, withSentinels_self h, fillSentinels, String.ofList_toList]

/-! ## Texts without the front of a placeholder -/

/-- The front of a placeholder. -/
def opening : List Char := ['\x7B', '\x7B']

theorem not_mem_escapeAlphabet_of_opening : ∀ d ∈ opening, d ∉ escapeAlphabet :=
  List.forall_mem_cons.mpr ⟨by decide, List.forall_mem_singleton.mpr (by decide)⟩

theorem lacks_lineBreak {rest : List Char} (h : Lacks opening rest) (depth : Nat) :
    Lacks opening (lineBreak depth ++ rest) := by
  refine Text.lacks_append_of_front (by decide) (fun c hc => ?_) h
  rcases List.mem_cons.mp hc with rfl | hc
  · decide
  · rw [List.eq_of_mem_replicate hc]
    decide

theorem lacks_singleton (c : Char) : Lacks opening [c] :=
  fun hinfix => absurd hinfix.length_le (by simp [opening])

/-- The sign in front of a line makes no front of a placeholder. -/
theorem lacks_sign {rest : List Char} (h : Lacks opening rest) (sign : Char) (depth : Nat) :
    Lacks opening (sign :: lineBreak depth ++ rest) := by
  have hhead : ∀ c ∈ (lineBreak depth ++ rest).head?, c ∉ opening := by
    rintro c ⟨⟩
    decide
  show Lacks opening ([sign] ++ (lineBreak depth ++ rest))
  exact Text.lacks_append (lacks_singleton sign) (lacks_lineBreak h depth) hhead

/-- Nor do lines where they meet. -/
theorem lacks_blockLines {lines : List (List Char)} {rest : List Char}
    (hlines : ∀ line ∈ lines, Lacks opening line) (hrest : Lacks opening rest)
    (hhead : ∀ c ∈ rest.head?, c ∉ opening) (depth : Nat) (sign : Char) :
    Lacks opening (blockLines depth sign lines ++ rest) := by
  induction lines generalizing sign with
  | nil => exact hrest
  | cons line lines ih =>
      have htail := ih (fun l hl => hlines l (List.mem_cons_of_mem line hl)) ','
      have hline : Lacks opening (line ++ (blockLines depth ',' lines ++ rest)) := by
        refine Text.lacks_append (hlines line List.mem_cons_self) htail ?_
        cases lines with
        | nil => exact hhead
        | cons next lines =>
            rintro c ⟨⟩
            decide
      rw [blockLines, List.append_assoc, List.append_assoc]
      exact lacks_sign hline sign depth

/-- A block whose lines hold no front of a placeholder holds none. -/
theorem lacks_block {lines : List (List Char)} (hlines : ∀ line ∈ lines, Lacks opening line)
    {first last : Char} (hlast : last ∉ opening) (depth : Nat) :
    Lacks opening (blockLines (depth + 1) first lines ++
      blockEnd first last depth lines.isEmpty) := by
  cases lines with
  | nil =>
      have hhead : ∀ c ∈ [last].head?, c ∉ opening := by
        rintro c ⟨⟩
        exact hlast
      show Lacks opening ([first] ++ [last])
      exact Text.lacks_append (lacks_singleton first) (lacks_singleton last) hhead
  | cons line lines =>
      refine lacks_blockLines hlines (lacks_lineBreak (lacks_singleton last) depth) ?_ _ first
      rintro c ⟨⟩
      decide

theorem forall_mem_prettyItems {p : String → Prop} {vs : List Value} {depth : Nat}
    (h : ∀ v ∈ vs, p (v.prettyAt depth)) : ∀ line ∈ Value.prettyItems depth vs, p line := by
  induction vs with
  | nil => exact fun line hline => absurd hline List.not_mem_nil
  | cons v vs ih =>
      exact List.forall_mem_cons.mpr
        ⟨h v List.mem_cons_self, ih fun w hw => h w (List.mem_cons_of_mem v hw)⟩

theorem forall_mem_prettyMembers {p : String → Prop} {ms : List (String × Value)} {depth : Nat}
    (h : ∀ k v, (k, v) ∈ ms → p (quote k ++ ": " ++ v.prettyAt depth)) :
    ∀ line ∈ Value.prettyMembers depth ms, p line := by
  induction ms with
  | nil => exact fun line hline => absurd hline List.not_mem_nil
  | cons member ms ih =>
      obtain ⟨k, v⟩ := member
      exact List.forall_mem_cons.mpr ⟨h k v List.mem_cons_self,
        ih fun l w hw => h l w (List.mem_cons_of_mem _ hw)⟩

/-- **The text of a tree holds no front of a placeholder** if its leaves and keys hold none. -/
theorem lacks_prettyAt {n : Nat} {v : Value}
    (h : Shaped (fun w => Lacks opening (scalarText w).toList)
      (fun k => Lacks opening k.toList) n v) (depth : Nat) :
    Lacks opening (v.prettyAt depth).toList := by
  induction h generalizing depth with
  | leaf hleaf h => rwa [prettyAt_of_isLeaf hleaf]
  | @array n items h ih =>
      have hempty : items.isEmpty =
          ((Value.prettyItems (depth + 1) items).map String.toList).isEmpty := by
        cases items <;> simp [Value.prettyItems]
      rw [toList_prettyAt_array, hempty]
      refine lacks_block (List.forall_mem_map.mpr ?_) (by decide) depth
      exact forall_mem_prettyItems fun v hv => ih v hv (depth + 1)
  | @object n members hasc hkeys h ih =>
      have hempty : members.isEmpty =
          ((Value.prettyMembers (depth + 1) members).map String.toList).isEmpty := by
        cases members <;> simp [Value.prettyMembers]
      rw [toList_prettyAt_object, hempty]
      refine lacks_block (List.forall_mem_map.mpr ?_) (by decide) depth
      refine forall_mem_prettyMembers fun k v hv => ?_
      have hvalue : Lacks opening ([':', ' '] ++ (v.prettyAt (depth + 1)).toList) :=
        Text.lacks_append_of_front (by decide) (by simp [opening]) (ih k v hv (depth + 1))
      have hmember :=
        lacks_quote_append (by decide) not_mem_escapeAlphabet_of_opening (hkeys k v hv) hvalue
      rw [String.toList_append, String.toList_append, List.append_assoc]
      exact hmember

/-! ## Creating -/

/-- A part of an actual document that is the same in an expected one: numbers are read back,
and strings and keys hold no front of a placeholder. -/
def Value.Storable : Value → Prop
  | .float x => rereadFloat? x = some x
  | .string s => Lacks opening s.toList
  | .object members => ∀ k v, (k, v) ∈ members → Lacks opening k.toList
  | _ => True

instance (v : Value) : Decidable v.Storable :=
  match v with
  | .float x => inferInstanceAs (Decidable (rereadFloat? x = some x))
  | .string s => inferInstanceAs (Decidable (Lacks opening s.toList))
  | .object members => decidable_of_iff (∀ p ∈ members, Lacks opening p.1.toList)
      ⟨fun h k v hmem => h (k, v) hmem, fun h p hmem => h p.1 p.2 hmem⟩
  | .null | .bool _ | .int _ | .nat _ | .array _ | .matcher _ => isTrue trivial

theorem Value.Storable.rereads {v : Value} (h : v.Storable) (hleaf : v.isLeaf = true)
    (hparsed : v.Parsed) : v.Rereads := by
  cases v with
  | float x => exact rereads_float h
  | matcher m => exact absurd hparsed id
  | nat n => exact Value.Readable.rereads hparsed hleaf
  | array _ | object _ => exact absurd hleaf (by simp)
  | _ => exact Value.Readable.rereads trivial hleaf

/-- The digits and signs of a number hold no front of a placeholder. -/
theorem lacks_of_isNumeral {cs : List Char} (h : ∀ c ∈ cs, IsNumeral c) : Lacks opening cs :=
  Text.lacks_of_not_mem List.mem_cons_self fun hmem => absurd (h _ hmem) (by decide)

theorem Value.Storable.lacks {v : Value} (h : v.Storable) (hleaf : v.isLeaf = true)
    (hparsed : v.Parsed) : Lacks opening (scalarText v).toList := by
  cases v with
  | null => decide
  | bool b => cases b <;> decide
  | int i => exact lacks_of_isNumeral (isNumeral_toString i.toInt)
  | nat n => exact lacks_of_isNumeral (isNumeral_toString n.toNat)
  | float x => exact lacks_of_isNumeral (isNumeral_floatText x)
  | string s =>
      have hnil : Lacks opening [] := by decide
      have hquote := lacks_quote_append (by decide) not_mem_escapeAlphabet_of_opening h hnil
      rwa [List.append_nil] at hquote
  | matcher m => exact absurd hparsed id
  | array _ | object _ => exact absurd hleaf (by simp)

/-- **A document matches the text that was created from it** if its numbers are read back
and no string and no key holds the front of a placeholder. -/
theorem check_initialText {bytes : List UInt8} {v : Value} (hv : readActual bytes = .ok v)
    (hstorable : v.Everywhere Value.Storable) (o : Options) (p : Report.Palette) :
    check (initialText v) bytes o p = .ok ⟨[], none, ""⟩ := by
  have hparsed := shaped_readActual hv
  have hshape := hparsed.everywhere hstorable
  have htext : initialText v = v.pretty ++ "\n" := by
    rw [initialText, templateText_of_matcherFree hparsed.literal.matcherFree]
  have hread : readString (initialText v) = .ok v := by
    rw [htext]
    exact readString_pretty
      (hshape.imp_leaf (fun w hleaf hw => hw.2.rereads hleaf hw.1) fun k hk => hk)
  have hlacks : Lacks opening (initialText v).toList := by
    have hparts : Shaped (fun w => Lacks opening (scalarText w).toList)
        (fun k => Lacks opening k.toList) depthLimit v := by
      refine hshape.imp_leaf (fun w hleaf hw => hw.2.lacks hleaf hw.1) ?_
      rintro k ⟨-, members, hmembers, w, hmem⟩
      exact hmembers k w hmem
    rw [htext, String.toList_append]
    exact Text.lacks_append (lacks_prettyAt hparts 0) (by decide) (by simp [opening])
  have hjudge : judge o p v v = ⟨[], none, ""⟩ := by
    rw [judge, compare_literal_self o hparsed.literal, Verdict.ofDifferences_nil]
  simp only [check, readExpected_of_lacks hlacks hread, hv]
  exact congrArg Except.ok hjudge

/-- A document with a number, a brace and a nested list. -/
theorem check_initialText_record :
    ∃ v, readActual (utf8 "\x7b\"a\": [1.5, -2, \"\x7b\\n\"], \"b\": [[]]\x7d") = .ok v ∧
      v.Everywhere Value.Storable ∧
      check (initialText v) (utf8 "\x7b\"a\": [1.5, -2, \"\x7b\\n\"], \"b\": [[]]\x7d") {} {} =
        .ok ⟨[], none, ""⟩ := by
  obtain ⟨v, hv, hstorable⟩ : ∃ v,
      readActual (utf8 "\x7b\"a\": [1.5, -2, \"\x7b\\n\"], \"b\": [[]]\x7d") = .ok v ∧
        v.Everywhere Value.Storable := exists_ok_of_any (by decide +kernel)
  exact ⟨v, hv, hstorable, check_initialText hv hstorable {} {}⟩

/-- A check that is seen to find differences. -/
theorem exists_check_of_any {bytes : List UInt8}
    (h : (readActual bytes).toOption.any (fun v =>
      (check (initialText v) bytes {} {}).toOption.any fun r => !r.isMatch) = true) :
    ∃ v r, readActual bytes = .ok v ∧ check (initialText v) bytes {} {} = .ok r ∧
      r.isMatch = false := by
  obtain ⟨v, hv, hcheck⟩ : ∃ v, readActual bytes = .ok v ∧
      (check (initialText v) bytes {} {}).toOption.any (fun r => !r.isMatch) = true :=
    exists_ok_of_any (by simpa using h)
  obtain ⟨r, hr, hmatch⟩ : ∃ r, check (initialText v) bytes {} {} = .ok r ∧
      r.isMatch = false := exists_ok_of_any (by simpa using hcheck)
  exact ⟨v, r, hv, hr, hmatch⟩

/-- **Strings are not guarded against placeholders.**  One that looks like a placeholder is a
matcher in the text that was created, and this matcher does not accept it. -/
theorem check_initialText_placeholder :
    ∃ v r, readActual (utf8 "\x7b\"a\": \"\x7b\x7banyInt\x7d\x7d\"\x7d") = .ok v ∧
      check (initialText v) (utf8 "\x7b\"a\": \"\x7b\x7banyInt\x7d\x7d\"\x7d") {} {} = .ok r ∧
      r.isMatch = false :=
  exists_check_of_any (by decide +kernel)

/-- **Numbers are rounded once more** when the text that was created is read. -/
theorem check_initialText_float :
    ∃ v r, readActual (utf8 "[123456789.123456789]") = .ok v ∧
      check (initialText v) (utf8 "[123456789.123456789]") {} {} = .ok r ∧ r.isMatch = false :=
  exists_check_of_any (by decide +kernel)

end Expectation.Json
