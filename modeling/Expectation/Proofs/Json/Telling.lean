import Expectation.Proofs.Binary64.Rendering
import Expectation.Proofs.Json.Numerals
import Expectation.Proofs.Json.Sameness
import Expectation.Proofs.Text.Pieces

/-!
# The text of a tree tells the tree

A tree over several lines is written without ambiguity.  The first character of a value
tells its type; words, strings and brackets end by themselves, and a number ends where the
line does.  Numbers are told apart because integers are written with digits only and
floating-point numbers never are.  So two trees with one text are the same, up to the form
of their integers.

## Main results

* `same_of_scalarText_eq`: numbers are told by their texts.
* `forall₂_of_block`: blocks are told line by line.
* `tells`: the text of a tree tells the tree, and where it ends.
-/

namespace Expectation.Json

namespace Value

/-- Every floating-point number in the tree is finite. -/
def FloatsFinite (v : Value) : Prop :=
  v.Everywhere fun w => ∀ x, w = .float x → x.isFinite = true

/-- A tree whose text says everything: it has no matchers, and its numbers are finite. -/
structure Explicit (v : Value) : Prop where
  matcherFree : v.MatcherFree
  floatsFinite : v.FloatsFinite

theorem Explicit.items {items : List Value} (h : (Value.array items).Explicit) :
    ∀ v ∈ items, v.Explicit :=
  fun v hv => ⟨h.matcherFree.items v hv, (everywhere_array.mp h.floatsFinite).2 v hv⟩

theorem Explicit.members {members : List (String × Value)} (h : (Value.object members).Explicit) :
    ∀ k v, (k, v) ∈ members → v.Explicit :=
  fun k v hv => ⟨h.matcherFree.members k v hv, (everywhere_object.mp h.floatsFinite).2 k v hv⟩

theorem Explicit.isFinite {x : Binary64} (h : (Value.float x).Explicit) : x.isFinite = true :=
  h.floatsFinite.self x rfl

end Value

/-- What follows a value in a text over several lines. -/
def EndsValue (rest : List Char) : Prop := ∀ c ∈ rest.head?, c = ',' ∨ c = '\n'

/-! ## Numbers -/

/-- The text of a finite number. -/
theorem floatText_of_isFinite {x : Binary64} (hx : x.isFinite = true) :
    floatText x = x.render floatStyle :=
  if_pos hx

/-- The text of an integer has digits, and possibly a sign. -/
theorem isDigit_or_sign (i : Int) : ∀ c ∈ (toString i).toList, c.isDigit = true ∨ c = '-' := by
  rw [Text.toList_toString_int]
  split
  · exact fun c hc => .inl (Text.isDigit_of_mem_toDigits hc)
  · exact List.forall_mem_cons.mpr ⟨.inr rfl, fun c hc => .inl (Text.isDigit_of_mem_toDigits hc)⟩

/-- No integer is written like a floating-point number. -/
theorem toString_ne_floatText {x : Binary64} (hx : x.isFinite = true) (i : Int) :
    toString i ≠ floatText x := by
  intro h
  have hmark : ∀ c ∈ (floatText x).toList, c ≠ '.' ∧ c ≠ 'e' := by
    intro c hc
    rw [← h] at hc
    rcases isDigit_or_sign i c hc with hdigit | rfl
    · constructor <;> rintro rfl <;> exact absurd hdigit (by decide)
    · decide
  rw [floatText_of_isFinite hx, Binary64.render_eq, String.toList_append] at hmark
  rcases Binary64.mark_mem_unsigned floatStyle rfl x with hpoint | hexponent
  · exact (hmark '.' (List.mem_append_right _ hpoint)).1 rfl
  · exact (hmark 'e' (List.mem_append_right _ hexponent)).2 rfl

/-- The integer that a value is, in either form. -/
def Value.integer? : Value → Option Int
  | .int i => some i.toInt
  | .nat n => some n.toNat
  | _ => none

theorem scalarText_of_integer? {v : Value} {i : Int} (h : v.integer? = some i) :
    scalarText v = toString i := by
  cases v with
  | int j => exact congrArg toString (Option.some.inj h)
  | nat n => exact congrArg (fun j : Int => toString j) (Option.some.inj h)
  | _ => contradiction

/-- Integers are the same in either form. -/
theorem same_of_integer? {v w : Value} {i : Int} (hv : v.integer? = some i)
    (hw : w.integer? = some i) : v.same w = true := by
  cases v with
  | int a =>
      cases w with
      | int b => exact beq_iff_eq.mpr (Int64.toInt_inj.mp (Option.some.inj (hv.trans hw.symm)))
      | nat b => exact beq_iff_eq.mpr (Option.some.inj (hv.trans hw.symm))
      | _ => contradiction
  | nat a =>
      cases w with
      | int b => exact beq_iff_eq.mpr (Option.some.inj (hw.trans hv.symm))
      | nat b =>
          have heq : (a.toNat : Int) = b.toNat := Option.some.inj (hv.trans hw.symm)
          exact beq_iff_eq.mpr (UInt64.toNat_inj.mp (by omega))
      | _ => contradiction
  | _ => contradiction

theorem integer?_or_float {v : Value} (h : v.typeName = "number") :
    (∃ i, v.integer? = some i) ∨ ∃ x, v = .float x := by
  cases v with
  | int i => exact .inl ⟨_, rfl⟩
  | nat n => exact .inl ⟨_, rfl⟩
  | float x => exact .inr ⟨x, rfl⟩
  | _ => simp [Value.typeName] at h

/-- **Numbers are told by their texts.** -/
theorem same_of_scalarText_eq {v w : Value} (hv : v.typeName = "number")
    (hw : w.typeName = "number") (hvexplicit : v.Explicit) (hwexplicit : w.Explicit)
    (h : scalarText v = scalarText w) : v.same w = true := by
  rcases integer?_or_float hv with ⟨i, hi⟩ | ⟨x, rfl⟩
  · rw [scalarText_of_integer? hi] at h
    rcases integer?_or_float hw with ⟨j, hj⟩ | ⟨y, rfl⟩
    · rw [scalarText_of_integer? hj] at h
      exact same_of_integer? hi (Text.toString_int_injective h ▸ hj)
    · exact absurd h (toString_ne_floatText hwexplicit.isFinite i)
  · rcases integer?_or_float hw with ⟨j, hj⟩ | ⟨y, rfl⟩
    · rw [scalarText_of_integer? hj] at h
      exact absurd h.symm (toString_ne_floatText hvexplicit.isFinite j)
    · have hrender : x.render floatStyle = y.render floatStyle := by
        rw [← floatText_of_isFinite hvexplicit.isFinite,
          ← floatText_of_isFinite hwexplicit.isFinite]
        exact h
      exact beq_iff_eq.mpr (Binary64.render_injective floatStyle hrender)

/-! ## Where values end -/

theorem EndsValue.not_numeral {rest : List Char} (h : EndsValue rest) :
    ∀ c ∈ rest.head?, ¬ IsNumeral c := by
  intro c hc
  rcases h c hc with rfl | rfl <;> decide

theorem isNumeral_of_typeName {v : Value} (h : v.typeName = "number") :
    ∀ c ∈ (scalarText v).toList, IsNumeral c := by
  cases v with
  | int i => exact isNumeral_toString i.toInt
  | nat n => exact isNumeral_toString n.toNat
  | float x => exact isNumeral_floatText x
  | _ => simp [Value.typeName] at h

/-- A string in quotation marks ends by itself. -/
theorem quote_append_inj {s t : String} {rest rest' : List Char}
    (h : (quote s).toList ++ rest = (quote t).toList ++ rest') : s = t ∧ rest = rest' := by
  have htext : ∀ (u : String) (after : List Char), (quote u).toList ++ after =
      '"' :: (escapeChars u.toList ++ '"' :: after) := by
    intro u after
    rw [toList_quote]
    simp
  rw [htext, htext] at h
  have hs := string_quote s (symbols rest)
  have ht := string_quote t (symbols rest')
  rw [← symbols_cons, ← symbols_append, (List.cons.inj h).2, symbols_append, symbols_cons, ht,
    Except.ok.injEq, Prod.mk.injEq] at hs
  exact ⟨hs.1.symm, (List.map_injective_iff.mpr (fun _ _ => Text.Symbol.char.inj) hs.2).symm⟩

/-! ## Blocks -/

theorem prettyItems_eq_map (depth : Nat) (items : List Value) :
    Value.prettyItems depth items = items.map (Value.prettyAt depth) := by
  induction items with
  | nil => rfl
  | cons v vs ih => rw [Value.prettyItems, List.map_cons, ih]

theorem prettyMembers_eq_map (depth : Nat) (members : List (String × Value)) :
    Value.prettyMembers depth members =
      members.map fun m => quote m.1 ++ ": " ++ m.2.prettyAt depth := by
  induction members with
  | nil => rfl
  | cons member ms ih =>
      obtain ⟨k, v⟩ := member
      rw [Value.prettyMembers, List.map_cons, ih]

section Blocks

variable {α : Type} {line : α → List Char} {R : α → α → Prop} {as bs : List α} {depth : Nat}
  {opening closing : Char} {rest rest' : List Char}

/-- The text of a part in its line tells the part, and where it ends. -/
def LineTells (line : α → List Char) (R : α → α → Prop) (a b : α) : Prop :=
  ∀ rest rest', EndsValue rest → EndsValue rest' → line a ++ rest = line b ++ rest' →
    R a b ∧ rest = rest'

/-- What follows a line of a block. -/
theorem endsValue_blockLines (depth outer : Nat) (lines : List (List Char)) (rest : List Char) :
    EndsValue (blockLines depth ',' lines ++ (lineBreak outer ++ rest)) := by
  cases lines with
  | nil =>
      rintro c ⟨⟩
      exact .inr rfl
  | cons line lines =>
      rintro c ⟨⟩
      exact .inl rfl

/-- The first of several lines, and what follows it. -/
theorem line_of_blockLines {outer : Nat} {sign : Char} {a b : α} (hab : LineTells line R a b)
    (h : blockLines depth sign ((a :: as).map line) ++ (lineBreak outer ++ closing :: rest) =
      blockLines depth sign ((b :: bs).map line) ++ (lineBreak outer ++ closing :: rest')) :
    R a b ∧ blockLines depth ',' (as.map line) ++ (lineBreak outer ++ closing :: rest) =
      blockLines depth ',' (bs.map line) ++ (lineBreak outer ++ closing :: rest') := by
  simp only [List.map_cons, blockLines, List.append_assoc, List.cons_append] at h
  exact hab _ _ (endsValue_blockLines _ _ _ _) (endsValue_blockLines _ _ _ _)
    (List.append_cancel_left (List.cons.inj h).2)

/-- Further lines are told one by one. -/
theorem forall₂_of_blockLines {outer : Nat}
    (hline : ∀ a ∈ as, ∀ b ∈ bs, LineTells line R a b)
    (h : blockLines depth ',' (as.map line) ++ (lineBreak outer ++ closing :: rest) =
      blockLines depth ',' (bs.map line) ++ (lineBreak outer ++ closing :: rest')) :
    List.Forall₂ R as bs ∧ rest = rest' := by
  induction as generalizing bs with
  | nil =>
      cases bs with
      | nil =>
          have hend : lineBreak outer ++ closing :: rest = lineBreak outer ++ closing :: rest' := h
          exact ⟨.nil, (List.cons.inj (List.append_cancel_left hend)).2⟩
      | cons b bs => exact absurd (List.cons.inj h).1 (by decide)
  | cons a as ih =>
      cases bs with
      | nil => exact absurd (List.cons.inj h).1 (by decide)
      | cons b bs =>
          obtain ⟨hab, htail⟩ := line_of_blockLines
            (hline a List.mem_cons_self b List.mem_cons_self) h
          obtain ⟨hrest, hend⟩ := ih (fun c hc d hd =>
            hline c (List.mem_cons_of_mem a hc) d (List.mem_cons_of_mem b hd)) htail
          exact ⟨.cons hab hrest, hend⟩

/-- **Blocks are told line by line.** -/
theorem forall₂_of_block (hclosing : closing ≠ '\n')
    (hline : ∀ a ∈ as, ∀ b ∈ bs, LineTells line R a b)
    (h : blockLines (depth + 1) opening (as.map line) ++
        blockEnd opening closing depth as.isEmpty ++ rest =
      blockLines (depth + 1) opening (bs.map line) ++
        blockEnd opening closing depth bs.isEmpty ++ rest') :
    List.Forall₂ R as bs ∧ rest = rest' := by
  cases as with
  | nil =>
      cases bs with
      | nil => exact ⟨.nil, List.append_cancel_left h⟩
      | cons b bs => exact absurd (List.cons.inj (List.cons.inj h).2).1 hclosing
  | cons a as =>
      cases bs with
      | nil => exact absurd (List.cons.inj (List.cons.inj h).2).1.symm hclosing
      | cons b bs =>
          have hend : ∀ after, blockEnd opening closing depth false ++ after =
              lineBreak depth ++ closing :: after :=
            fun after => List.append_assoc (lineBreak depth) [closing] after
          rw [List.isEmpty_cons, List.isEmpty_cons, List.append_assoc, List.append_assoc, hend,
            hend] at h
          obtain ⟨hab, htail⟩ := line_of_blockLines
            (hline a List.mem_cons_self b List.mem_cons_self) h
          obtain ⟨hrest, hlast⟩ := forall₂_of_blockLines (fun c hc d hd =>
            hline c (List.mem_cons_of_mem a hc) d (List.mem_cons_of_mem b hd)) htail
          exact ⟨.cons hab hrest, hlast⟩

end Blocks

/-! ## Trees -/

/-- The type of a value that begins with a character. -/
def typeOf (c : Char) : String :=
  if c = 'n' then "null"
  else if c = 't' ∨ c = 'f' then "boolean"
  else if c = '"' then "string"
  else if c = '[' then "array"
  else if c = '\x7B' then "object"
  else "number"

theorem typeOf_of_isNumeral {c : Char} (h : IsNumeral c) (hn : c ≠ 'n') :
    typeOf c = "number" := by
  have hother : ∀ d ∈ ['t', 'f', '"', '[', '\x7B'], ¬ IsNumeral d := by simp [IsNumeral]
  have hne : c ∉ ['t', 'f', '"', '[', '\x7B'] := fun hmem => hother c hmem h
  simp only [List.mem_cons, List.not_mem_nil, or_false, not_or] at hne
  simp [typeOf, hn, hne]

theorem head_toString (i : Int) : ∃ c cs, (toString i).toList = c :: cs ∧ c ≠ 'n' := by
  have hnot : ∀ c ∈ (toString i).toList, c ≠ 'n' := by
    intro c hc
    rcases isDigit_or_sign i c hc with hdigit | rfl
    · rintro rfl
      exact absurd hdigit (by decide)
    · decide
  have hne : (toString i).toList ≠ [] := by
    rw [Text.toList_toString_int]
    split
    · exact Nat.toDigits_ne_nil
    · exact List.cons_ne_nil _ _
  obtain ⟨c, cs, hcs⟩ := List.exists_cons_of_ne_nil hne
  exact ⟨c, cs, hcs, hnot c (hcs ▸ List.mem_cons_self)⟩

/-- A finite number does not begin like a word. -/
theorem head_floatText {x : Binary64} (hx : x.isFinite = true) :
    ∃ c cs, (floatText x).toList = c :: cs ∧ c ≠ 'n' := by
  rw [floatText_of_isFinite hx, Binary64.render_eq, String.toList_append]
  cases x.negative with
  | true => exact ⟨'-', _, rfl, by decide⟩
  | false =>
      show ∃ c cs, (x.unsigned floatStyle).toList = c :: cs ∧ c ≠ 'n'
      cases htext : (x.unsigned floatStyle).toList with
      | nil =>
          have hmark := Binary64.mark_mem_unsigned floatStyle rfl x
          rw [htext] at hmark
          exact absurd hmark (by simp)
      | cons c cs =>
          refine ⟨c, cs, rfl, ?_⟩
          rintro rfl
          exact Binary64.unsigned_ne_cons rfl (by decide) (by decide) floatStyle x cs htext

theorem prettyAt_of_number {v : Value} (h : v.typeName = "number") (depth : Nat) :
    v.prettyAt depth = scalarText v := by
  cases v with
  | int _ | nat _ | float _ => rfl
  | _ => simp [Value.typeName] at h

theorem exists_head_number {v : Value} (h : v.typeName = "number") (hexplicit : v.Explicit) :
    ∃ c cs, (scalarText v).toList = c :: cs ∧ typeOf c = v.typeName := by
  obtain ⟨c, cs, hcs, hn⟩ : ∃ c cs, (scalarText v).toList = c :: cs ∧ c ≠ 'n' := by
    rcases integer?_or_float h with ⟨i, hi⟩ | ⟨x, rfl⟩
    · rw [scalarText_of_integer? hi]
      exact head_toString i
    · exact head_floatText hexplicit.isFinite
  have hnumeral := isNumeral_of_typeName h c (hcs ▸ List.mem_cons_self)
  exact ⟨c, cs, hcs, (typeOf_of_isNumeral hnumeral hn).trans h.symm⟩

theorem toList_prettyAt_null (depth : Nat) :
    (Value.null.prettyAt depth).toList = ['n', 'u', 'l', 'l'] := by
  rw [prettyAt_of_isLeaf rfl]
  rfl

theorem toList_prettyAt_bool (b : Bool) (depth : Nat) :
    ((Value.bool b).prettyAt depth).toList =
      if b then ['t', 'r', 'u', 'e'] else ['f', 'a', 'l', 's', 'e'] := by
  rw [prettyAt_of_isLeaf rfl]
  cases b <;> rfl

/-- **The first character of a value tells its type.** -/
theorem exists_head_prettyAt {v : Value} (hexplicit : v.Explicit) (depth : Nat) :
    ∃ c cs, (v.prettyAt depth).toList = c :: cs ∧ typeOf c = v.typeName := by
  cases v with
  | null => exact ⟨'n', _, toList_prettyAt_null depth, rfl⟩
  | bool b => cases b <;> exact ⟨_, _, toList_prettyAt_bool _ depth, rfl⟩
  | int _ | nat _ | float _ => exact exists_head_number rfl hexplicit
  | string s => exact ⟨'"', escapeChars s.toList ++ ['"'], toList_quote s, rfl⟩
  | array items =>
      rw [toList_prettyAt_array]
      cases items <;> exact ⟨'[', _, rfl, rfl⟩
  | object members =>
      rw [toList_prettyAt_object]
      cases members <;> exact ⟨'\x7B', _, rfl, rfl⟩
  | matcher m => exact absurd hexplicit.matcherFree.self (Option.some_ne_none m)

/-- The text of one tree at a depth tells it from another one, and where it ends. -/
def Tells (depth : Nat) : Value → Value → Prop :=
  LineTells (fun v => (v.prettyAt depth).toList) fun v w => v.same w = true

/-- Values of different types are told apart by how they begin. -/
theorem tells_of_typeName {v w : Value} {depth : Nat} (hv : v.Explicit) (hw : w.Explicit)
    (h : v.typeName = w.typeName → Tells depth v w) : Tells depth v w := by
  intro rest rest' hrest hrest' htext
  obtain ⟨c, cs, hcs, hc⟩ := exists_head_prettyAt hv depth
  obtain ⟨d, ds, hds, hd⟩ := exists_head_prettyAt hw depth
  refine h ?_ rest rest' hrest hrest' htext
  simp only [hcs, hds] at htext
  rw [← hc, ← hd, (List.cons.inj htext).1]

theorem tells_number {v w : Value} {depth : Nat} (hv : v.Explicit) (hw : w.Explicit)
    (htype : v.typeName = "number") : Tells depth v w := by
  refine tells_of_typeName hv hw fun hsame rest rest' hrest hrest' h => ?_
  have htype' := hsame.symm.trans htype
  simp only [prettyAt_of_number htype, prettyAt_of_number htype'] at h
  obtain ⟨htext, hend⟩ := Text.append_inj_of_alphabet (isNumeral_of_typeName htype)
    (isNumeral_of_typeName htype') hrest.not_numeral hrest'.not_numeral h
  exact ⟨same_of_scalarText_eq htype htype' hv hw (String.toList_inj.mp htext), hend⟩

/-- The line of a member tells its key and its value. -/
theorem lineTells_member {a b : String × Value} {depth : Nat} (h : Tells depth a.2 b.2) :
    LineTells (fun m : String × Value => (quote m.1 ++ ": " ++ m.2.prettyAt depth).toList)
      (fun a b => a.1 = b.1 ∧ a.2.same b.2 = true) a b := by
  intro rest rest' hrest hrest' htext
  have hline : ∀ (m : String × Value) (after : List Char),
      (quote m.1 ++ ": " ++ m.2.prettyAt depth).toList ++ after =
        (quote m.1).toList ++ (':' :: ' ' :: ((m.2.prettyAt depth).toList ++ after)) := by
    intro m after
    simp [String.toList_append]
  simp only [hline] at htext
  obtain ⟨hkey, hvalue⟩ := quote_append_inj htext
  obtain ⟨hsame, hend⟩ := h rest rest' hrest hrest'
    (List.cons.inj (List.cons.inj hvalue).2).2
  exact ⟨⟨hkey, hsame⟩, hend⟩

/-- **The text of a tree tells the tree**, and where it ends. -/
theorem tells {v w : Value} (hv : v.Explicit) (hw : w.Explicit) (depth : Nat) :
    Tells depth v w := by
  induction v generalizing w depth with
  | int _ | nat _ | float _ => exact tells_number hv hw rfl
  | null =>
      refine tells_of_typeName hv hw fun htype rest rest' _ _ h => ?_
      cases w with
      | null => exact ⟨rfl, List.append_cancel_left h⟩
      | _ => simp [Value.typeName] at htype
  | bool b =>
      refine tells_of_typeName hv hw fun htype rest rest' _ _ h => ?_
      cases w with
      | bool c =>
          simp only [toList_prettyAt_bool] at h
          cases b <;> cases c
          · exact ⟨rfl, List.append_cancel_left h⟩
          · exact absurd (List.cons.inj h).1 (by decide)
          · exact absurd (List.cons.inj h).1 (by decide)
          · exact ⟨rfl, List.append_cancel_left h⟩
      | _ => simp [Value.typeName] at htype
  | string s =>
      refine tells_of_typeName hv hw fun htype rest rest' _ _ h => ?_
      cases w with
      | string t =>
          obtain ⟨rfl, hend⟩ := quote_append_inj h
          exact ⟨beq_self_eq_true s, hend⟩
      | _ => simp [Value.typeName] at htype
  | array items ih =>
      refine tells_of_typeName hv hw fun htype rest rest' _ _ h => ?_
      cases w with
      | array others =>
          simp only [toList_prettyAt_array, prettyItems_eq_map, List.map_map] at h
          obtain ⟨hitems, hend⟩ := forall₂_of_block (by decide)
            (fun v hmem w hmem' => ih v hmem (hv.items v hmem) (hw.items w hmem') (depth + 1)) h
          exact ⟨Value.sameItems_iff.mpr hitems, hend⟩
      | _ => simp [Value.typeName] at htype
  | object members ih =>
      refine tells_of_typeName hv hw fun htype rest rest' _ _ h => ?_
      cases w with
      | object others =>
          simp only [toList_prettyAt_object, prettyMembers_eq_map, List.map_map] at h
          obtain ⟨hmembers, hend⟩ := forall₂_of_block (by decide)
            (fun a hmem b hmem' => lineTells_member (ih a.1 a.2 hmem (hv.members a.1 a.2 hmem)
              (hw.members b.1 b.2 hmem') (depth + 1))) h
          exact ⟨Value.sameMembers_iff.mpr hmembers, hend⟩
      | _ => simp [Value.typeName] at htype
  | matcher m => exact absurd hv.matcherFree.self (Option.some_ne_none m)

/-- **Trees with one text are the same.** -/
theorem same_of_pretty_eq {v w : Value} (hv : v.Explicit) (hw : w.Explicit)
    (h : v.pretty = w.pretty) : v.same w = true := by
  have hend : EndsValue [] := by simp [EndsValue]
  exact (tells hv hw 0 [] [] hend hend (congrArg (String.toList · ++ []) h)).1

end Expectation.Json
