import Expectation.Proofs.Regex.Composing
import Expectation.Proofs.Regex.Size
import Expectation.Template

/-!
# What a template matches

The patterns of a template are put together from the patterns of its parts, so what they match
is put together as well: a template without patterns of its own matches the texts that are cut
into one piece for each part, in order, such that each piece is one that its part stands for.

Up to layout the same is said of the parts without the blanks at both ends of the template.
Blanks around the text are passed over, and each run of blanks in a literal part, as long as
it can be taken, stands for any run of blanks.

A list without values stands for nothing, but its pattern has one alternative all the same, an
empty one.  No expression denotes such a list.  In a template that is made with one, it admits
the empty text, although no value contributes it.

## Main results

* `row_parts`: the patterns of the parts in a row.
* `isMatch_iff_reading`: what a template matches, exactly and up to layout.
* `exists_isMatch_of_not_contributes`: what a list without values admits.
-/

namespace Expectation.Template

open Computability Regex

/-! ## What a part stands for -/

/-- Decimal digits, at least one. -/
def IsDigits (m : List Char) : Prop :=
  m ≠ [] ∧ ∀ c ∈ m, Unicode.isDecimalDigit c = true

/-- Digits with a minus sign or without. -/
def IsInt (m : List Char) : Prop :=
  ∃ sign digits, m = sign ++ digits ∧ (sign = [] ∨ sign = ['-']) ∧ IsDigits digits

/-- Nothing, or a point and digits. -/
def IsFraction (m : List Char) : Prop :=
  m = [] ∨ ∃ digits, m = '.' :: digits ∧ IsDigits digits

/-- Nothing, or the letter of an exponent and digits with a sign or without. -/
def IsExponent (m : List Char) : Prop :=
  m = [] ∨ ∃ letter sign digits, m = letter ++ (sign ++ digits) ∧
    (letter = ['e'] ∨ letter = ['E']) ∧ (sign = [] ∨ sign = ['+'] ∨ sign = ['-']) ∧ IsDigits digits

/-- Digits with what may stand around them in a number. -/
def IsFloat (m : List Char) : Prop :=
  ∃ int fraction exponent, m = int ++ (fraction ++ exponent) ∧ IsInt int ∧ IsFraction fraction ∧
    IsExponent exponent

/-- Blanks, at least one. -/
def IsRun (m : List Char) : Prop :=
  m ≠ [] ∧ ∀ c ∈ m, Text.isBlank c = true

/-- A text laid out anew: each run of blanks, as long as it can be taken, is replaced by some
run of blanks. -/
inductive Relaid : List Char → List Char → Prop
  | nil : Relaid [] []
  | char {c : Char} {cs m : List Char} (hc : Text.isBlank c = false) (h : Relaid cs m) :
      Relaid (c :: cs) (c :: m)
  | run {run cs run' m : List Char} (hrun : IsRun run)
      (hends : ∀ c ∈ cs.head?, Text.isBlank c = false) (hrun' : IsRun run') (h : Relaid cs m) :
      Relaid (run ++ cs) (run' ++ m)

/-- **What a part contributes** to a text that its template matches, where literal texts stand
for others as `literal` says. -/
inductive Contributes (literal : List Char → List Char → Prop) : Part → List Char → Prop
  | literal {text : String} {m : List Char} (h : literal text.toList m) :
      Contributes literal (.literal text) m
  | anyString (m : List Char) : Contributes literal (.matcher .anyString) m
  | anyValue (m : List Char) : Contributes literal (.matcher .anyValue) m
  | ignore (m : List Char) : Contributes literal (.matcher .ignore) m
  | anyInt {m : List Char} (h : IsInt m) : Contributes literal (.matcher .anyInt) m
  | anyFloat {m : List Char} (h : IsFloat m) : Contributes literal (.matcher .anyFloat) m
  | anyBool {v : String} (h : v = "true" ∨ v = "false") :
      Contributes literal (.matcher .anyBool) v.toList
  | oneOf {values : List String} {v : String} (h : v ∈ values) :
      Contributes literal (.matcher (.oneOf values)) v.toList

/-- **What a part admits** in a text that its template matches: what it contributes, and the
empty text for a list without values. -/
inductive Admits (literal : List Char → List Char → Prop) : Part → List Char → Prop
  | contributed {p : Part} {m : List Char} (h : Contributes literal p m) : Admits literal p m
  | noValues : Admits literal (.matcher (.oneOf [])) []

/-- **A text is read as the parts**: it is cut into one piece for each part, in order, and each
piece is one that `piece` allows for its part. -/
def Reading (piece : Part → List Char → Prop) (parts : List Part) (text : List Char) : Prop :=
  ∃ pieces, text = pieces.flatten ∧ List.Forall₂ piece parts pieces

/-- A part without the blanks in front if it is the first, and at its end if it is the last. -/
def Part.trimmed (first last : Bool) : Part → Part
  | .literal text =>
    let cs := text.toList
    let cs := if first then Text.trimStart cs else cs
    .literal (String.ofList (if last then Text.trimEnd cs else cs))
  | .matcher m => .matcher m

/-- The parts from one on, without the blanks at the ends of the template. -/
def trimmedParts (first : Bool) : List Part → List Part
  | [] => []
  | p :: ps => p.trimmed first ps.isEmpty :: trimmedParts false ps

/-! ## Numbers -/

theorem row_digits : Row ['\\', 'd', '+'] (texts IsDigits) :=
  single_digit.plus.congr fun _ => mem_letters_mul_kstar

theorem row_int : Row (embedded .anyInt) (texts IsInt) := by
  have hsign : Row ['-', '?'] (1 + {['-']}) := (single_char (by decide)).optional
  exact (hsign.append row_digits).congr fun m => mem_mul_iff

theorem row_fraction : Row "(?:\\.\\d+)?".toList (texts IsFraction) := by
  have hbody : Row ['\\', '.', '\\', 'd', '+'] ({['.']} * texts IsDigits) :=
    (single_escaped rfl).row.append row_digits
  refine hbody.group.optional.congr fun m => or_congr_right (mem_mul_iff.trans ?_)
  constructor
  · rintro ⟨_, digits, rfl, rfl, hdigits⟩
    exact ⟨digits, rfl, hdigits⟩
  · rintro ⟨digits, rfl, hdigits⟩
    exact ⟨['.'], digits, rfl, rfl, hdigits⟩

theorem row_exponent : Row "(?:[eE][+-]?\\d+)?".toList (texts IsExponent) := by
  have hsign : Row ['[', '+', '-', ']', '?'] (1 + letters fun c => c == '+' || c == '-') :=
    single_sign.optional
  have hbody := single_exponent.row.append (hsign.append row_digits)
  refine hbody.group.optional.congr fun m => or_congr_right (mem_mul_iff.trans ?_)
  simp only [mem_mul_iff, mem_letters_pair, Language.mem_add, Language.mem_one, mem_texts]
  constructor
  · rintro ⟨letter, _, rfl, hletter, sign, digits, rfl, hsign, hdigits⟩
    exact ⟨letter, sign, digits, rfl, hletter, hsign, hdigits⟩
  · rintro ⟨letter, sign, digits, rfl, hletter, hsign, hdigits⟩
    exact ⟨letter, _, rfl, hletter, sign, digits, rfl, hsign, hdigits⟩

theorem row_float : Row (embedded .anyFloat) (texts IsFloat) := by
  refine (row_int.append (row_fraction.append row_exponent)).congr fun m => ?_
  simp only [mem_mul_iff, mem_texts]
  constructor
  · rintro ⟨int, _, rfl, hint, fraction, exponent, rfl, hfraction, hexponent⟩
    exact ⟨int, fraction, exponent, rfl, hint, hfraction, hexponent⟩
  · rintro ⟨int, fraction, exponent, rfl, hint, hfraction, hexponent⟩
    exact ⟨int, _, rfl, hint, fraction, exponent, rfl, hfraction, hexponent⟩

/-! ## Single parts -/

section Parts

variable {literal : List Char → List Char → Prop} {piece : Part → List Char → Prop}
  {parts ps : List Part} {p : Part}

/-- Only a list without values admits more than it contributes. -/
theorem admits_iff (hp : p ≠ .matcher (.oneOf [])) {m : List Char} :
    Admits literal p m ↔ Contributes literal p m :=
  ⟨fun | .contributed h => h | .noValues => absurd rfl hp, .contributed⟩

theorem row_oneOf (values : List String) (hne : values ≠ []) :
    Row (embedded (.oneOf values)) (texts fun m => ∃ v ∈ values, m = v.toList) := by
  have hrows : List.Forall₂ Row (values.map fun v => escapeText v.toList)
      (values.map fun v => ({v.toList} : Language Char)) := by
    rw [List.forall₂_map_left_iff, List.forall₂_map_right_iff]
    exact List.forall₂_same.mpr fun v _ => row_escapeText v.toList
  refine (single_group hrows (by simpa using hne)).row.congr fun m => ?_
  simp [mem_sum, mem_texts, mem_singleton]

/-- The group of a list without values has one alternative all the same, an empty one. -/
theorem row_noValues :
    Row (embedded (.oneOf [])) (texts (Admits literal (.matcher (.oneOf [])))) := by
  refine row_nil.group.row.congr fun t => ⟨?_, ?_⟩
  · rintro rfl
    exact .noValues
  · rintro (⟨⟨⟩⟩ | _)
    · contradiction
    · rfl

/-- **The pattern of a matcher** without one of its own is read as a row. -/
theorem row_embedded {m : Matcher} (hm : ∀ p, m ≠ .regex p) :
    Row (embedded m) (texts (Admits literal (.matcher m))) := by
  by_cases hvalues : m = .oneOf []
  · subst hvalues
    exact row_noValues
  refine Row.congr (L := texts (Contributes literal (.matcher m))) ?_ fun t =>
    (admits_iff fun h => hvalues (Part.matcher.inj h)).symm
  have hany : Row ".*".toList (texts fun _ => True) :=
    single_dot.star.congr fun t => by simp [mem_kstar_letters, mem_texts]
  cases m with
  | anyString => exact hany.congr fun t => ⟨fun _ => .anyString t, fun _ => trivial⟩
  | anyValue => exact hany.congr fun t => ⟨fun _ => .anyValue t, fun _ => trivial⟩
  | ignore => exact hany.congr fun t => ⟨fun _ => .ignore t, fun _ => trivial⟩
  | anyInt => exact row_int.congr fun t => ⟨.anyInt, fun | .anyInt h => h⟩
  | anyFloat => exact row_float.congr fun t => ⟨.anyFloat, fun | .anyFloat h => h⟩
  | anyBool =>
      -- both truth values are read as they are written, so they make a list of values
      have hrow : Row (embedded .anyBool) _ := row_oneOf ["true", "false"] (by simp)
      refine hrow.congr fun t => ⟨?_, ?_⟩
      · rintro ⟨v, hv, rfl⟩
        exact .anyBool (by simpa using hv)
      · rintro ⟨⟩
        exact ⟨_, by simpa, rfl⟩
  | regex p => exact absurd rfl (hm p)
  | oneOf values =>
      refine (row_oneOf values fun h => hvalues (congrArg _ h)).congr fun t => ⟨?_, ?_⟩
      · rintro ⟨v, hv, rfl⟩
        exact .oneOf hv
      · rintro ⟨⟩
        exact ⟨_, ‹_›, rfl⟩

/-! ## Literal texts up to layout -/

theorem relaid_nil {m : List Char} : Relaid [] m ↔ m = [] := by
  constructor
  · generalize htext : ([] : List Char) = text
    rintro (_ | _ | ⟨hrun, _, _, _⟩)
    · rfl
    · cases htext
    · exact absurd (List.append_eq_nil_iff.mp htext.symm).1 hrun.1
  · rintro rfl
    exact .nil

theorem relaid_cons_of_isBlank {c : Char} {cs m : List Char} (hc : Text.isBlank c = true) :
    Relaid (c :: cs) m ↔
      ∃ run m', m = run ++ m' ∧ IsRun run ∧ Relaid (cs.dropWhile Text.isBlank) m' := by
  constructor
  · generalize htext : c :: cs = text
    rintro (_ | ⟨hd, _⟩ | ⟨hrun, hends, hrun', h⟩)
    · cases htext
    · cases htext
      rw [hc] at hd
      cases hd
    · rename_i run rest run' m'
      obtain ⟨d, more, rfl⟩ := List.exists_cons_of_ne_nil hrun.1
      rw [List.cons_append] at htext
      obtain ⟨rfl, rfl⟩ := List.cons.inj htext
      refine ⟨run', m', rfl, hrun', ?_⟩
      have hrest : rest.dropWhile Text.isBlank = rest := by
        cases rest with
        | nil => rfl
        | cons e rest => simp [hends e rfl]
      rwa [List.dropWhile_append_of_pos (List.forall_mem_cons.mp hrun.2).2, hrest]
  · rintro ⟨run, m', rfl, hrun, h⟩
    have htext : c :: cs = (c :: cs.takeWhile Text.isBlank) ++ cs.dropWhile Text.isBlank := by
      rw [List.cons_append, List.takeWhile_append_dropWhile]
    rw [htext]
    refine .run ⟨List.cons_ne_nil _ _, List.forall_mem_cons.mpr ⟨hc, fun d => ?_⟩⟩ ?_ hrun h
    · exact List.all_eq_true.mp List.all_takeWhile d
    · intro d hd
      simpa [Option.mem_def.mp hd] using List.head?_dropWhile_not Text.isBlank cs

theorem relaid_cons_of_not_isBlank {c : Char} {cs m : List Char} (hc : Text.isBlank c = false) :
    Relaid (c :: cs) m ↔ ∃ m', m = c :: m' ∧ Relaid cs m' := by
  constructor
  · generalize htext : c :: cs = text
    rintro (_ | ⟨_, h⟩ | ⟨hrun, _, _, _⟩)
    · cases htext
    · cases htext
      exact ⟨_, rfl, h⟩
    · obtain ⟨d, more, rfl⟩ := List.exists_cons_of_ne_nil hrun.1
      obtain ⟨rfl, rfl⟩ := List.cons.inj htext
      rw [hrun.2 c List.mem_cons_self] at hc
      cases hc
  · rintro ⟨m', rfl, h⟩
    exact .char hc h

/-- **The pattern of a literal up to layout.**  In a run that has begun, the blanks in front
belong to it. -/
theorem row_collapsedLiteral (inRun : Bool) (cs : List Char) : Row (collapsedLiteral inRun cs)
    (texts (Relaid (if inRun then cs.dropWhile Text.isBlank else cs))) := by
  induction cs generalizing inRun with
  | nil => exact row_nil.congr fun m => by cases inRun <;> exact relaid_nil.symm
  | cons c cs ih =>
      cases hc : Text.isBlank c with
      | true =>
          cases inRun with
          | true => simpa [collapsedLiteral, hc] using ih true
          | false =>
              have hpattern : collapsedLiteral false (c :: cs) =
                  ['\\', 's', '+'] ++ collapsedLiteral true cs := by simp [collapsedLiteral, hc]
              rw [hpattern]
              refine (single_blank.plus.append (ih true)).congr fun m => ?_
              simp only [mem_mul_iff (L := _ * _), mem_letters_mul_kstar, mem_texts]
              exact (relaid_cons_of_isBlank hc).symm
      | false =>
          have htext : (if inRun then (c :: cs).dropWhile Text.isBlank else c :: cs) = c :: cs := by
            simp [hc]
          have hpattern : collapsedLiteral inRun (c :: cs) =
              escapeText [c] ++ collapsedLiteral false cs := by simp [collapsedLiteral, hc]
          rw [htext, hpattern]
          refine ((row_escapeText [c]).append (ih false)).congr fun m => ?_
          rw [mem_mul_iff, mem_texts, relaid_cons_of_not_isBlank hc]
          constructor
          · rintro ⟨_, m', rfl, rfl, hm'⟩
            exact ⟨m', rfl, hm'⟩
          · rintro ⟨m', rfl, hm'⟩
            exact ⟨[c], m', rfl, rfl, hm'⟩

/-! ## Parts in a row -/

theorem reading_nil {m : List Char} : Reading piece [] m ↔ m = [] := by
  simp [Reading]

theorem reading_cons {m : List Char} : Reading piece (p :: ps) m ↔
    ∃ a b, m = a ++ b ∧ piece p a ∧ Reading piece ps b := by
  constructor
  · rintro ⟨_, rfl, hpieces⟩
    cases hpieces with
    | cons hp hps => exact ⟨_, _, List.flatten_cons, hp, _, rfl, hps⟩
  · rintro ⟨a, _, rfl, hp, pieces, rfl, hps⟩
    exact ⟨a :: pieces, List.flatten_cons.symm, .cons hp hps⟩

/-- **The patterns of the parts in a row** match the texts that are read as the parts. -/
theorem row_parts {pattern : Part → List Char}
    (h : ∀ p ∈ parts, Row (pattern p) (texts (piece p))) :
    Row (parts.flatMap pattern) (texts (Reading piece parts)) := by
  induction parts with
  | nil => exact row_nil.congr fun m => reading_nil.symm
  | cons p ps ih =>
      obtain ⟨hp, hps⟩ := List.forall_mem_cons.mp h
      exact (hp.append (ih hps)).congr fun m => mem_mul_iff.trans reading_cons.symm

theorem row_exactPart (hp : ∀ q, p ≠ .matcher (.regex q)) :
    Row (exactPart p) (texts (Admits Eq p)) := by
  cases p with
  | literal text =>
      refine (row_escapeText text.toList).congr fun m => ?_
      exact ⟨fun h => .contributed (.literal (Eq.symm h)),
        fun | .contributed (.literal h) => Eq.symm h⟩
  | matcher m => exact row_embedded fun q hq => hp q (congrArg _ hq)

theorem row_collapsedPart (hp : ∀ q, p ≠ .matcher (.regex q)) :
    Row (collapsedPart false false p) (texts (Admits Relaid p)) := by
  cases p with
  | literal text =>
      refine (row_collapsedLiteral false text.toList).congr fun m => ?_
      exact ⟨fun h => .contributed (.literal h), fun | .contributed (.literal h) => h⟩
  | matcher m => exact row_embedded fun q hq => hp q (congrArg _ hq)

/-- Trimming can be done before the pattern of a part is made. -/
theorem collapsedParts_eq (first : Bool) (parts : List Part) : collapsedParts first parts =
    (trimmedParts first parts).flatMap (collapsedPart false false) := by
  induction parts generalizing first with
  | nil => rfl
  | cons p ps ih =>
      rw [collapsedParts, trimmedParts, List.flatMap_cons, ih false]
      cases p with
      | literal text => simp [collapsedPart, Part.trimmed]
      | matcher m => rfl

/-- The pattern up to layout is one between the ends of a text. -/
theorem collapsedPattern_eq (parts : List Part) : collapsedPattern parts = String.ofList
    ("(?s)^".toList ++ (['\\', 's', '*'] ++ (collapsedParts true parts ++ ['\\', 's', '*'])) ++
      ['$']) := by
  have hfront : "(?s)^\\s*".toList = "(?s)^".toList ++ ['\\', 's', '*'] := by decide
  have hback : "\\s*$".toList = ['\\', 's', '*'] ++ ['$'] := by decide
  unfold collapsedPattern
  simp only [hfront, hback, List.append_assoc]

/-- No pattern comes from trimming. -/
theorem regex_notMem_trimmedParts {q : Pattern} (h : .matcher (.regex q) ∉ parts) (first : Bool) :
    .matcher (.regex q) ∉ trimmedParts first parts := by
  induction parts generalizing first with
  | nil => exact List.not_mem_nil
  | cons p ps ih =>
      rw [List.mem_cons, not_or] at h
      rw [trimmedParts, List.mem_cons, not_or]
      refine ⟨?_, ih h.2 false⟩
      cases p with
      | literal text => exact fun h => by cases h
      | matcher m => exact h.1

end Parts

/-! ## Templates that can be made -/

/-- The parts make a template if both patterns are accepted. -/
theorem exists_ofParts {parts : List Part} {exact collapsed : Regex}
    (he : ofPattern (exactPattern parts) = .ok exact)
    (hc : ofPattern (collapsedPattern parts) = .ok collapsed) : ∃ t, ofParts parts = .ok t := by
  refine ⟨⟨parts, exact, collapsed, he, hc⟩, ?_⟩
  unfold ofParts
  split
  · next h => cases he.symm.trans h
  · next h =>
    cases he.symm.trans h
    split
    · next h => cases hc.symm.trans h
    · next h =>
      cases hc.symm.trans h
      rfl

/-- A word and a number make a template. -/
theorem exists_ofParts_count : ∃ t, ofParts [.literal "n ", .matcher .anyInt] = .ok t := by
  have hdigit := setPiece_of_ascending (s := .decimalDigit) 0 (by decide +kernel)
  have hblank := setPiece_of_ascending (s := .blank) 0 (by decide +kernel)
  obtain ⟨exact, he⟩ : ∃ r, ofPattern (exactPattern [.literal "n ", .matcher .anyInt]) = .ok r := by
    refine exists_ofPattern [.piece (lookPiece .textEnd),
      .piece ((setPiece 0 .decimalDigit).repeated 1 none true),
      .piece ((charPiece .anyDot '-').repeated 0 (some 1) true), .piece (charPiece .anyDot ' '),
      .piece (charPiece .anyDot 'n'), .piece (lookPiece .textStart), .setting] rfl (by decide) ?_
    rw [hdigit]
    exact Shape.fits_of_room_le (by decide +kernel)
  obtain ⟨collapsed, hc⟩ :
      ∃ r, ofPattern (collapsedPattern [.literal "n ", .matcher .anyInt]) = .ok r := by
    refine exists_ofPattern [.piece (lookPiece .textEnd),
      .piece ((setPiece 0 .blank).repeated 0 none true),
      .piece ((setPiece 0 .decimalDigit).repeated 1 none true),
      .piece ((charPiece .anyDot '-').repeated 0 (some 1) true),
      .piece ((setPiece 0 .blank).repeated 1 none true), .piece (charPiece .anyDot 'n'),
      .piece ((setPiece 0 .blank).repeated 0 none true), .piece (lookPiece .textStart), .setting]
      rfl (by decide) ?_
    rw [hdigit, hblank]
    exact Shape.fits_of_room_le (by decide +kernel)
  exact exists_ofParts he hc

/-- A list without values makes a template. -/
theorem exists_ofParts_noValues : ∃ t, ofParts [.matcher (.oneOf [])] = .ok t := by
  have hblank := setPiece_of_ascending (s := .blank) 0 (by decide +kernel)
  let group : Piece := ⟨(joinItems []).regex, (joinItems []).depth + 1, (joinItems []).shape⟩
  obtain ⟨exact, he⟩ : ∃ r, ofPattern (exactPattern [.matcher (.oneOf [])]) = .ok r := by
    refine exists_ofPattern [.piece (lookPiece .textEnd), .piece group,
      .piece (lookPiece .textStart), .setting] rfl (by decide) ?_
    exact Shape.fits_of_room_le (by decide +kernel)
  obtain ⟨collapsed, hc⟩ : ∃ r, ofPattern (collapsedPattern [.matcher (.oneOf [])]) = .ok r := by
    refine exists_ofPattern [.piece (lookPiece .textEnd),
      .piece ((setPiece 0 .blank).repeated 0 none true), .piece group,
      .piece ((setPiece 0 .blank).repeated 0 none true), .piece (lookPiece .textStart), .setting]
      rfl (by decide) ?_
    rw [hblank]
    exact Shape.fits_of_room_le (by decide +kernel)
  exact exists_ofParts he hc

/-! ## The whole template -/

section Whole

variable {parts : List Part} {t : Template}

/-- A template matches the texts that are read as its parts. -/
theorem isMatch_exact_iff (ht : ofParts parts = .ok t)
    (hparts : ∀ q, .matcher (.regex q) ∉ parts) (text : String) :
    t.isMatch false text = true ↔ Reading (Admits Eq) parts text.toList := by
  obtain rfl := parts_of_ofParts ht
  have hrow := row_parts fun p hp => row_exactPart fun q hq => hparts q (hq ▸ hp)
  exact isMatch_of_row hrow t.exact_denoted text

/-- Up to layout, it matches the texts that are read as the trimmed parts, between blanks. -/
theorem isMatch_collapsed_iff (ht : ofParts parts = .ok t)
    (hparts : ∀ q, .matcher (.regex q) ∉ parts) (text : String) :
    t.isMatch true text = true ↔ ∃ front core back, text.toList = front ++ (core ++ back) ∧
      (∀ c ∈ front ++ back, Text.isBlank c = true) ∧
      Reading (Admits Relaid) (trimmedParts true parts) core := by
  obtain rfl := parts_of_ofParts ht
  have hcore := row_parts fun p hp =>
    row_collapsedPart fun q hq => regex_notMem_trimmedParts (hparts q) true (hq ▸ hp)
  have hblank : Row ['\\', 's', '*'] (letters Text.isBlank)∗ := single_blank.star
  have hrow := hblank.append (hcore.append hblank)
  rw [← collapsedParts_eq] at hrow
  have hdenoted := t.collapsed_denoted
  rw [collapsedPattern_eq] at hdenoted
  have hmatch : t.isMatch true text = true ↔ text.toList ∈ _ := isMatch_of_row hrow hdenoted text
  rw [hmatch]
  simp only [mem_mul_iff, mem_kstar_letters, mem_texts, List.forall_mem_append]
  constructor
  · rintro ⟨front, _, htext, hfront, core, back, rfl, hcore, hback⟩
    exact ⟨front, core, back, htext, ⟨hfront, hback⟩, hcore⟩
  · rintro ⟨front, core, back, htext, ⟨hfront, hback⟩, hcore⟩
    exact ⟨front, _, htext, hfront, core, back, rfl, hcore, hback⟩

end Whole

/-- **What a template matches.**  Without a pattern of its own it matches exactly the texts that
are read as its parts, each piece one that its part admits.  Up to layout, it matches the texts
that are read as the parts without the blanks at the ends of the template, literals laid out
anew, between any blanks. -/
theorem isMatch_iff_reading {parts : List Part} {t : Template} (ht : ofParts parts = .ok t)
    (hparts : ∀ q, .matcher (.regex q) ∉ parts) (text : String) :
    (t.isMatch false text = true ↔ Reading (Admits Eq) parts text.toList) ∧
      (t.isMatch true text = true ↔ ∃ front core back, text.toList = front ++ (core ++ back) ∧
        (∀ c ∈ front ++ back, Text.isBlank c = true) ∧
        Reading (Admits Relaid) (trimmedParts true parts) core) :=
  ⟨isMatch_exact_iff ht hparts text, isMatch_collapsed_iff ht hparts text⟩

/-- A number behind a word, matched as it is written and between other blanks. -/
theorem isMatch_iff_reading_count : ∃ t, ofParts [.literal "n ", .matcher .anyInt] = .ok t ∧
    (∀ q, .matcher (.regex q) ∉ [Part.literal "n ", .matcher .anyInt]) ∧
    t.isMatch false "n -7" = true ∧ t.isMatch true "\tn\n7 " = true := by
  obtain ⟨t, ht⟩ := exists_ofParts_count
  have hparts : ∀ q, .matcher (.regex q) ∉ [Part.literal "n ", .matcher .anyInt] := by simp
  have hexact := (isMatch_iff_reading ht hparts "n -7").1
  have hcollapsed := (isMatch_iff_reading ht hparts "\tn\n7 ").2
  have hdigit : ∀ d, Unicode.isDecimalDigit d = true → IsDigits [d] :=
    fun d hd => ⟨List.cons_ne_nil _ _, by simpa using hd⟩
  refine ⟨t, ht, hparts, hexact.mpr ?_, hcollapsed.mpr ?_⟩
  · have hint : IsInt ['-', '7'] := ⟨['-'], ['7'], rfl, .inr rfl, hdigit _ (by decide)⟩
    exact ⟨[['n', ' '], ['-', '7']], by decide,
      .cons (.contributed (.literal (by decide))) (.cons (.contributed (.anyInt hint)) .nil)⟩
  · have hint : IsInt ['7'] := ⟨[], ['7'], rfl, .inl rfl, hdigit _ (by decide)⟩
    have hblank : ∀ c, Text.isBlank c = true → IsRun [c] :=
      fun c hc => ⟨List.cons_ne_nil _ _, by simpa using hc⟩
    have hrun : Relaid ([' '] ++ []) (['\n'] ++ []) :=
      .run (hblank _ (by decide)) (by simp) (hblank _ (by decide)) .nil
    have htrimmed : trimmedParts true [.literal "n ", .matcher .anyInt] =
        [.literal "n ", .matcher .anyInt] := by decide
    have hmargin : ∀ c ∈ ['\t', ' '], Text.isBlank c = true := List.all_eq_true.mp (by decide)
    refine ⟨['\t'], ['n', '\n', '7'], [' '], by decide, hmargin, [['n', '\n'], ['7']], rfl, ?_⟩
    rw [htrimmed]
    exact .cons (.contributed (.literal (.char (by decide) hrun)))
      (.cons (.contributed (.anyInt hint)) .nil)

/-- **A list without values admits the empty text**, which none of its values contributes. -/
theorem exists_isMatch_of_not_contributes : ∃ t, ofParts [.matcher (.oneOf [])] = .ok t ∧
    (∀ q, .matcher (.regex q) ∉ [Part.matcher (.oneOf [])]) ∧ t.isMatch false "" = true ∧
      ¬ Reading (Contributes Eq) [.matcher (.oneOf [])] "".toList := by
  obtain ⟨t, ht⟩ := exists_ofParts_noValues
  have hparts : ∀ q, .matcher (.regex q) ∉ [Part.matcher (.oneOf [])] := by simp
  refine ⟨t, ht, hparts, ?_, ?_⟩
  · exact (isMatch_exact_iff ht hparts "").mpr ⟨[[]], rfl, .cons .noValues .nil⟩
  · rintro ⟨_, -, hpieces⟩
    cases hpieces with
    | cons hp _ =>
        cases hp with
        | oneOf hv => exact absurd hv List.not_mem_nil

end Expectation.Template
