import Expectation.Proofs.Placeholder.Parts

/-!
# Scanning written segments

A raw text is cut into segments, and segments can be written again: characters
as they are, placeholders with their braces.  This file says for which segments
the scan of the written text gives the segments back.

Three kinds of pieces are enough for the text of a tree: plain text without
quotation marks, quoted strings, and placeholders inside quotation marks.
`Legible` are the segments that are made of such pieces when no piece holds
what the scan would take for something else.

## Main results

* `scan_written`: legible segments are what a scan finds in their text.
* `lacks_written`: their text holds no front of a sentinel.
-/

namespace Expectation.Placeholder

open Text (Lacks Unpaired)

/-! ## Legible segments -/

/-- The text that segments stand for. -/
def written : List Segment → List Char
  | [] => []
  | .char c :: rest => c :: written rest
  | .placeholder e _ :: rest => '\x7B' :: '\x7B' :: e ++ '\x7D' :: '\x7D' :: written rest

theorem written_append (a b : List Segment) : written (a ++ b) = written a ++ written b := by
  induction a with
  | nil => rfl
  | cons segment a ih =>
      cases segment with
      | char c => exact congrArg (c :: ·) ih
      | placeholder e quoted => simp [written, ih]

theorem written_chars (cs : List Char) (rest : List Segment) :
    written (cs.map .char ++ rest) = cs ++ written rest := by
  induction cs with
  | nil => rfl
  | cons c cs ih => exact congrArg (c :: ·) ih

theorem spell_chars (i : Nat) (cs : List Char) (rest : List Segment) :
    spell i (cs.map .char ++ rest) = cs ++ spell i rest := by
  induction cs with
  | nil => rfl
  | cons c cs ih => exact congrArg (c :: ·) ih

theorem spell_append (i : Nat) (a b : List Segment) :
    spell i (a ++ b) = spell i a ++ spell (i + (expressionsOf a).length) b := by
  induction a generalizing i with
  | nil => rfl
  | cons segment a ih =>
      cases segment with
      | char c => exact congrArg (c :: ·) (ih i)
      | placeholder e quoted =>
          have hcount : i + (expressionsOf (.placeholder e quoted :: a)).length =
              i + 1 + (expressionsOf a).length :=
            (Nat.succ_add_eq_add_succ i _).symm
          rw [List.cons_append, spell, spell, ih, hcount, List.append_assoc]

theorem expressionsOf_chars (cs : List Char) (rest : List Segment) :
    expressionsOf (cs.map .char ++ rest) = expressionsOf rest := by
  induction cs with
  | nil => rfl
  | cons c cs ih => exact ih

/-- An expression that a scan finds and that holds no front of a sentinel. -/
structure Findable (e : List Char) : Prop where
  ne_nil : e ≠ []
  trim : Text.trim e = e
  close : ∀ rest, beforeClose false (e ++ '\x7D' :: '\x7D' :: rest) = some e
  lacks : Lacks sentinelFront e

theorem findable_expression {m : Matcher} (harg : m.HasArgument) (h : m.Quiet) :
    Findable m.expression.toList := by
  refine ⟨?_, Matcher.trim_expression harg, Matcher.beforeClose_expression harg h,
    Matcher.lacks_expression h⟩
  cases m with
  | regex p =>
      rw [Matcher.toList_expression_regex]
      exact List.cons_ne_nil _ _
  | oneOf values =>
      rw [Matcher.toList_expression_oneOf]
      exact List.cons_ne_nil _ _
  | _ => decide

/-- Segments that a scan finds again: plain text, quoted strings, and
placeholders inside quotation marks. -/
inductive Legible : List Segment → Prop
  | nil : Legible []
  | plain {cs : List Char} {rest : List Segment} (hquote : '"' ∉ cs)
      (hpair : Unpaired '\x7B' cs) (hfront : ∀ c ∈ cs, c ∉ sentinelFront)
      (h : Legible rest) : Legible (cs.map .char ++ rest)
  | quoted {s : String} {rest : List Segment} (hpair : Lacks ['\x7B', '\x7B'] s.toList)
      (hfront : Lacks sentinelFront s.toList) (h : Legible rest) :
      Legible ((Json.quote s).toList.map .char ++ rest)
  | mark {e : List Char} {rest : List Segment} (he : Findable e) (h : Legible rest) :
      Legible (.char '"' :: .placeholder e false :: .char '"' :: rest)

/-! ## Scanning -/

/-- Characters without a pair of opening braces are passed one by one. -/
theorem scan_chars (context : ScanContext) {cs : List Char} (hpair : Unpaired '\x7B' cs)
    (rest : List Char) :
    scan 0 context (cs ++ rest) =
      cs.map .char ++ scan 0 (cs.foldl ScanContext.next context) rest := by
  rw [scan_eq_map_parts, scan_eq_map_parts, parts_chars context hpair, List.map_append,
    List.map_map]
  rfl

/-- A placeholder is found with its expression, and the scan goes on behind it. -/
theorem scan_braces {context : ScanContext} (hcontext : context ≠ .escaped)
    {inner rest : List Char} (hblank : Text.trim inner ≠ [])
    (hclose : beforeClose false (inner ++ '\x7D' :: '\x7D' :: rest) = some inner) :
    scan 0 context ('\x7B' :: '\x7B' :: inner ++ '\x7D' :: '\x7D' :: rest) =
      .placeholder (Text.trim inner) (context = .value) :: scan 0 context rest := by
  rw [scan_eq_map_parts, scan_eq_map_parts, parts_braces hcontext hblank hclose]
  rfl

/-- A placeholder whose expression can be found is found with it. -/
theorem scan_placeholder {context : ScanContext} (hcontext : context ≠ .escaped)
    {e : List Char} (he : Findable e) (rest : List Char) :
    scan 0 context ('\x7B' :: '\x7B' :: e ++ '\x7D' :: '\x7D' :: rest) =
      .placeholder e (context = .value) :: scan 0 context rest := by
  have hblank : Text.trim e ≠ [] := by
    rw [he.trim]
    exact he.ne_nil
  rw [scan_braces hcontext hblank (he.close rest), he.trim]

/-- Outside strings text without quotation marks stays outside strings. -/
theorem foldl_next_value {cs : List Char} (h : '"' ∉ cs) :
    cs.foldl ScanContext.next .value = .value := by
  induction cs with
  | nil => rfl
  | cons c cs ih =>
      have hc : c ≠ '"' := fun heq => h (heq ▸ List.mem_cons_self)
      have hnext : ScanContext.value.next c = .value := by simp [ScanContext.next, hc]
      rw [List.foldl_cons, hnext]
      exact ih fun hmem => h (List.mem_cons_of_mem c hmem)

/-- The written form of a character leaves a scan inside the string. -/
theorem foldl_next_escapeChar (c : Char) :
    (Json.escapeChar c).foldl ScanContext.next .string = .string := by
  rcases Json.escapeChar_cases c with ⟨letter, -, hc⟩ | ⟨hcontrol, hc⟩ | ⟨hquote, hback, -, hc⟩
  · rw [hc]
    rfl
  · have hhigh := Json.hexDigit_ne (n := c.toNat / 16) (by omega)
    have hlow := Json.hexDigit_ne (n := c.toNat % 16) (by omega)
    simp [hc, ScanContext.next, hhigh, hlow]
  · simp [hc, ScanContext.next, hquote, hback]

theorem foldl_next_escapeChars (cs : List Char) :
    (Json.escapeChars cs).foldl ScanContext.next .string = .string := by
  induction cs with
  | nil => rfl
  | cons c cs ih => rw [Json.escapeChars_cons, List.foldl_append, foldl_next_escapeChar, ih]

/-- A quoted string leaves a scan outside strings again. -/
theorem foldl_next_quote (s : String) :
    (Json.quote s).toList.foldl ScanContext.next .value = .value := by
  have hbody : ('"' :: Json.escapeChars s.toList).foldl ScanContext.next .value = .string :=
    foldl_next_escapeChars s.toList
  rw [Json.toList_quote, List.foldl_append, hbody]
  rfl

theorem unpaired_quote {s : String} (h : Lacks ['\x7B', '\x7B'] s.toList) :
    Unpaired '\x7B' (Json.quote s).toList := by
  have hneedle : ∀ d ∈ ['\x7B', '\x7B'], d ∉ Json.escapeAlphabet :=
    List.all_iff_forall_prop.mp (by decide)
  refine ⟨?_, ?_⟩
  · have hlacks : Lacks ['\x7B', '\x7B'] ((Json.quote s).toList ++ []) :=
      Json.lacks_quote_append (List.cons_ne_nil _ _) hneedle h (Text.unpaired_nil '\x7B').lacks
    rwa [List.append_nil] at hlacks
  · rw [Json.toList_quote, List.getLast?_concat]
    decide

/-- **Legible segments are found again.** -/
theorem scan_written {segments : List Segment} (h : Legible segments) :
    scan 0 .value (written segments) = segments := by
  induction h with
  | nil => rfl
  | plain hquote hpair hfront h ih =>
      rw [written_chars, scan_chars _ hpair, foldl_next_value hquote, ih]
  | quoted hpair hfront h ih =>
      rw [written_chars, scan_chars _ (unpaired_quote hpair), foldl_next_quote, ih]
  | @mark e rest he h ih =>
      have hmark : ∀ (context : ScanContext) (cs : List Char),
          scan 0 context ('"' :: cs) = .char '"' :: scan 0 (context.next '"') cs :=
        fun context cs => scan_chars context
          (Text.unpaired_of_not_mem (by decide : '\x7B' ∉ ['"'])) cs
      have hinside : scan 0 .string (written (.placeholder e false :: .char '"' :: rest)) =
          .placeholder e false :: .char '"' :: rest := by
        rw [written, scan_placeholder (by decide) he, written, hmark]
        exact congrArg (fun segments => _ :: _ :: segments) ih
      rw [written, hmark]
      exact congrArg (_ :: ·) hinside

/-! ## Texts without sentinels -/

section Lacks

variable {rest : List Segment}

/-- Characters that are not in the front of a sentinel make none. -/
theorem lacks_written_chars {cs : List Char} (hcs : ∀ c ∈ cs, c ∉ sentinelFront)
    (h : Lacks sentinelFront (written rest)) :
    Lacks sentinelFront (written (cs.map .char ++ rest)) := by
  rw [written_chars]
  exact Text.lacks_append_of_front (by decide) hcs h

/-- A quoted string makes none if the string holds none. -/
theorem lacks_written_quote {s : String} (hs : Lacks sentinelFront s.toList)
    (h : Lacks sentinelFront (written rest)) :
    Lacks sentinelFront (written ((Json.quote s).toList.map .char ++ rest)) := by
  have hneedle : ∀ d ∈ sentinelFront, d ∉ Json.escapeAlphabet :=
    List.all_iff_forall_prop.mp (by decide)
  rw [written_chars]
  exact Json.lacks_quote_append (by decide) hneedle hs h

/-- A placeholder makes none if its expression holds none. -/
theorem lacks_written_mark {e : List Char} (he : Lacks sentinelFront e)
    (h : Lacks sentinelFront (written rest)) :
    Lacks sentinelFront (written (.char '"' :: .placeholder e false :: .char '"' :: rest)) := by
  have hne : sentinelFront ≠ [] := by decide
  have hopening : ∀ c ∈ "\"\x7B\x7B".toList, c ∉ sentinelFront :=
    List.all_iff_forall_prop.mp (by decide)
  have hclosing : ∀ c ∈ "\x7D\x7D\"".toList, c ∉ sentinelFront :=
    List.all_iff_forall_prop.mp (by decide)
  have hclose : Lacks sentinelFront ("\x7D\x7D\"".toList ++ written rest) :=
    Text.lacks_append_of_front hne hclosing h
  have hbody : Lacks sentinelFront (e ++ ("\x7D\x7D\"".toList ++ written rest)) := by
    refine Text.lacks_append he hclose ?_
    rintro c ⟨⟩
    decide
  have htext : written (.char '"' :: .placeholder e false :: .char '"' :: rest) =
      "\"\x7B\x7B".toList ++ (e ++ ("\x7D\x7D\"".toList ++ written rest)) := by
    simp [written]
  rw [htext]
  exact Text.lacks_append_of_front hne hopening hbody

end Lacks

/-- The text of legible segments holds no front of a sentinel. -/
theorem lacks_written {segments : List Segment} (h : Legible segments) :
    Lacks sentinelFront (written segments) := by
  induction h with
  | nil => exact Text.lacks_of_not_mem (c := '_') (by decide) (by decide)
  | plain hquote hpair hfront h ih => exact lacks_written_chars hfront ih
  | quoted hpair hfront h ih => exact lacks_written_quote hfront ih
  | mark he h ih => exact lacks_written_mark he.lacks ih

end Expectation.Placeholder
