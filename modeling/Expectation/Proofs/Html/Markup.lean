import Expectation.Html.Tree
import Expectation.Proofs.Html.Escaping
import Expectation.Proofs.Html.Rewriting
import Expectation.Proofs.Text.Pieces

/-!
# Reading written markup

The tags, comments and declarations of a written page are read as what they were written for,
whatever stands behind them.  Names have to be without the characters that end a name in a tag, and
they are read in small letters: the names of the page's own vocabulary are, but those of drawings
and formulas may have capital letters.

## Main results

* `nextInMarkup_opening`, `nextInMarkup_closing`: a written tag.
* `nextInMarkup_comment`, `nextInMarkup_doctype`: a written comment and declaration.
* `nextInMarkup_escaped`: a character of an escaped text.
* `untilClosing_append`, `untilClosing_append_of_eq`, `scriptContent_append_of_eq`: content that is
  not markup.
-/

namespace Expectation.Html

open Text (Lacks)

/-! ## Names -/

/-- A character of a name that is read as it is written. -/
def isNameChar (c : Char) : Bool := !endsName c && (shown c).toLower == c

/-- The name of an element, which is read in small letters. -/
def isTagName (cs : List Char) : Bool := cs.head?.any Char.isAlpha && cs.all (!endsName ·)

/-- The name of an element that is read as it is written. -/
def isSmallName (cs : List Char) : Bool := cs.head?.any Char.isAlpha && cs.all isNameChar

/-- The name of an attribute. -/
def isAttributeName (cs : List Char) : Bool :=
  !cs.isEmpty && cs.all fun c => !endsName c && c != '='

theorem nameText_of_all {cs : List Char} (h : cs.all isNameChar = true) :
    nameText cs = String.ofList cs := by
  have hmap : cs.map (fun c => (shown c).toLower) = cs.map id := by
    refine List.map_congr_left fun c hc => ?_
    have hchar := List.all_eq_true.mp h c hc
    simp only [isNameChar, Bool.and_eq_true, beq_iff_eq] at hchar
    exact hchar.2
  rw [nameText, hmap, List.map_id]

theorem shownText_of_not_mem {cs : List Char} (h : '\x00' ∉ cs) :
    shownText cs = String.ofList cs := by
  have hmap : cs.map shown = cs.map id := by
    refine List.map_congr_left fun c hc => if_neg ?_
    rintro rfl
    exact h hc
  rw [shownText, hmap, List.map_id]

theorem endsName_of_isNameChar {c : Char} (h : isNameChar c = true) : endsName c = false := by
  simp only [isNameChar, Bool.and_eq_true, Bool.not_eq_true'] at h
  exact h.1

theorem isTagName_of_isSmallName {cs : List Char} (h : isSmallName cs = true) :
    isTagName cs = true := by
  simp only [isSmallName, Bool.and_eq_true, List.all_eq_true] at h
  simp only [isTagName, Bool.and_eq_true, List.all_eq_true, Bool.not_eq_true']
  exact ⟨h.1, fun c hc => endsName_of_isNameChar (h.2 c hc)⟩

/-- A name as it is read. -/
def readName (name : String) : String := nameText name.toList

theorem readName_of_isSmallName {name : String} (h : isSmallName name.toList = true) :
    readName name = name := by
  simp only [isSmallName, Bool.and_eq_true] at h
  rw [readName, nameText_of_all h.2, String.ofList_toList]

theorem toLower_of_isNameChar {c : Char} (h : isNameChar c = true) : c.toLower = c := by
  simp only [isNameChar, Bool.and_eq_true, beq_iff_eq] at h
  have hlower := h.2
  rw [shown] at hlower
  split at hlower
  · exact absurd (hlower.trans ‹c = '\x00'›) (by decide)
  · exact hlower

/-! ## Attributes -/

/-- An attribute as it is written. -/
def attributeText (a : Attribute) : List Char :=
  ' ' :: a.name.toList ++ '=' :: '"' :: escapeText ['&', '"'] a.value.toList ++ ['"']

/-- An attribute whose name and value are read as they are written, up to the case of the name. -/
def Attribute.isLegible (a : Attribute) : Bool :=
  isAttributeName a.name.toList && !a.value.toList.contains '\x00'

/-- The attributes of a tag, as it is read. -/
def readValues (as : List Attribute) : List (String × String) :=
  as.map fun a => (readName a.name, a.value)

/-- An opening tag, as it is read. -/
def readTag (tag : String) (as : List Attribute) : Tag := ⟨readName tag, readValues as, false⟩

/-- A word stands at the front of a text in any letters. -/
theorem beginsWith_append {word : List Char} (front : List Char) (h : front.map Char.toLower = word)
    (rest : List Char) : beginsWith word (front ++ rest) = true := by
  subst h
  simp [beginsWith]

/-- What is escaped does not occur any more. -/
theorem not_mem_escapeText {special : List Char} (hs : Escapable special) {c : Char}
    (hc : c ∈ special) (hne : c ≠ '&') (cs : List Char) : c ∉ escapeText special cs := by
  have hnames : ∀ {name : List Char} {d : Char}, (name, d) ∈ escapeNames →
      c ∉ '&' :: (name ++ [';']) := by
    obtain ⟨own, hown⟩ := hs.2 c hc
    intro name d hname
    simp only [escapeNames, List.mem_cons, Prod.mk.injEq, List.not_mem_nil, or_false] at hown hname
    rcases hown with ⟨-, rfl⟩ | ⟨-, rfl⟩ | ⟨-, rfl⟩ | ⟨-, rfl⟩
    · exact absurd rfl hne
    all_goals rcases hname with ⟨rfl, -⟩ | ⟨rfl, -⟩ | ⟨rfl, -⟩ | ⟨rfl, -⟩ <;> decide
  induction cs with
  | nil => exact List.not_mem_nil
  | cons d cs ih =>
      rcases escapeText_cons_cases hs d cs with ⟨name, hname, heq⟩ | ⟨hd, heq⟩
      · have hfront := hnames hname
        simp only [List.mem_cons, List.mem_append, List.not_mem_nil, or_false, not_or] at hfront
        simp [heq, hfront, ih]
      · have hne : c ≠ d := fun h => hd (h ▸ hc)
        simp [heq, hne, ih]

/-- The value of a written attribute. -/
theorem attributeValue?_written {value : String} (hvalue : '\x00' ∉ value.toList)
    (rest : List Char) :
    attributeValue? ('"' :: escapeText ['&', '"'] value.toList ++ '"' :: rest) =
      some (value, rest) := by
  have hinside : ∀ c ∈ escapeText ['&', '"'] value.toList, (c != '"') = true := by
    intro c hc
    have hne : c ≠ '"' := fun h =>
      not_mem_escapeText escapable_value (by simp) (by decide) _ (h ▸ hc)
    simpa using hne
  have hshown : shownText value.toList = value := by
    rw [shownText_of_not_mem hvalue, String.ofList_toList]
  have hgap : dropGaps ('"' :: escapeText ['&', '"'] value.toList ++ '"' :: rest) =
      '"' :: escapeText ['&', '"'] value.toList ++ '"' :: rest := rfl
  rw [attributeValue?, hgap]
  simp only [List.cons_append]
  rw [List.dropWhile_append_of_pos hinside, List.takeWhile_append_of_pos hinside]
  simp [decodeReferences_escapeText escapable_value, hshown]

theorem dropGaps_cons_of_not_gap {c : Char} (h : isGap c = false) (cs : List Char) :
    dropGaps (c :: cs) = c :: cs := by
  rw [dropGaps, List.dropWhile_cons_of_neg (by simp [h])]

/-- One written attribute, of a name that was not seen before. -/
theorem attributes?_attributeText {a : Attribute} (ha : a.isLegible = true)
    {seen : List (String × String)} (hfresh : readName a.name ∉ seen.map (·.1)) (fuel : Nat)
    (rest : List Char) :
    attributes? (fuel + 1) seen (attributeText a ++ rest) =
      attributes? fuel ((readName a.name, a.value) :: seen) rest := by
  simp only [Attribute.isLegible, isAttributeName, Bool.and_eq_true, Bool.not_eq_true',
    List.isEmpty_eq_false_iff] at ha
  obtain ⟨⟨hne, hchars⟩, hvalue⟩ := ha
  obtain ⟨c, cs, hname⟩ := List.exists_cons_of_ne_nil hne
  have hinside : ∀ d ∈ c :: cs, (!(endsName d || d == '=')) = true := by
    intro d hd
    have hd := List.all_eq_true.mp hchars d (hname ▸ hd)
    simpa [bne] using hd
  have hends : endsName c = false := by
    have hc := hinside c List.mem_cons_self
    simp only [Bool.not_eq_true', Bool.or_eq_false_iff] at hc
    exact hc.1
  have hgap : isGap c = false := by
    simp only [endsName, Bool.or_eq_false_iff] at hends
    exact hends.1.1
  have htext : dropGaps (attributeText a ++ rest) =
      c :: (cs ++ '=' :: ('"' :: escapeText ['&', '"'] a.value.toList ++ '"' :: rest)) := by
    rw [← dropGaps_cons_of_not_gap hgap]
    simp [attributeText, hname, dropGaps, isGap]
  have htail := fun d hd => hinside d (List.mem_cons_of_mem c hd)
  have htake : ∀ X, (cs ++ '=' :: X).takeWhile (fun d => !(endsName d || d == '=')) = cs := by
    intro X
    rw [List.takeWhile_append_of_pos htail]
    simp
  have hdrop : ∀ X, (cs ++ '=' :: X).dropWhile (fun d => !(endsName d || d == '=')) =
      '=' :: X := by
    intro X
    rw [List.dropWhile_append_of_pos htail]
    simp
  have heqs : ∀ X, dropGaps ('=' :: X) = '=' :: X := fun X =>
    dropGaps_cons_of_not_gap (by decide) X
  have hread : nameText (c :: cs) = readName a.name := by rw [readName, hname]
  have hseen : seen.any (·.1 == readName a.name) = false := by
    refine List.any_eq_false.mpr fun p hp heq => hfresh ?_
    exact (beq_iff_eq.mp heq) ▸ List.mem_map_of_mem hp
  rw [attributes?, htext]
  split
  · simp_all
  · simp_all [endsName]
  · simp_all [endsName]
  · simp_all [endsName]
  · rename_i heq
    obtain ⟨rfl, rfl⟩ := List.cons.inj heq
    simp only [htake, hdrop, heqs, hread, hseen,
      attributeValue?_written (by simpa using hvalue), Bool.false_eq_true, if_false]

/-- The attributes of a written tag, behind those seen before. -/
theorem attributes?_written {as : List Attribute} (hlegible : ∀ a ∈ as, a.isLegible = true)
    (seen : List (String × String))
    (hnew : (seen.map (·.1) ++ as.map fun a => readName a.name).Nodup)
    {fuel : Nat} (hfuel : as.length < fuel) (rest : List Char) :
    attributes? fuel seen (as.flatMap attributeText ++ '>' :: rest) =
      some (seen.reverse ++ readValues as, false, rest) := by
  induction as generalizing seen fuel with
  | nil =>
      obtain ⟨fuel, rfl⟩ : ∃ m, fuel = m + 1 := ⟨fuel - 1, by simp at hfuel; omega⟩
      have hgap : dropGaps ('>' :: rest) = '>' :: rest := dropGaps_cons_of_not_gap (by decide) _
      simp [attributes?, hgap, readValues]
  | cons a as ih =>
      obtain ⟨fuel, rfl⟩ : ∃ m, fuel = m + 1 := ⟨fuel - 1, by simp at hfuel; omega⟩
      obtain ⟨ha, hlegible⟩ := List.forall_mem_cons.mp hlegible
      rw [List.map_cons, List.perm_middle.nodup_iff] at hnew
      have hfresh : readName a.name ∉ seen.map (·.1) := fun hmem =>
        (List.nodup_cons.mp hnew).1 (List.mem_append_left _ hmem)
      have hshorter : as.length < fuel := by simpa using hfuel
      rw [List.flatMap_cons, List.append_assoc, attributes?_attributeText ha hfresh,
        ih hlegible ((readName a.name, a.value) :: seen) hnew hshorter]
      simp [readValues]

/-! ## Tags -/

/-- An opening tag as it is written. -/
def openingText (tag : String) (as : List Attribute) : List Char :=
  '<' :: tag.toList ++ as.flatMap attributeText ++ ['>']

/-- A closing tag as it is written. -/
def closingText (tag : String) : List Char := '<' :: '/' :: tag.toList ++ ['>']

/-- Attributes that are read as they are written, up to the case of their names. -/
def Legible (as : List Attribute) : Prop :=
  (∀ a ∈ as, a.isLegible = true) ∧ (as.map fun a => readName a.name).Nodup

theorem length_le_length_attributes (as : List Attribute) :
    as.length ≤ (as.flatMap attributeText).length := by
  induction as with
  | nil => exact Nat.le_refl _
  | cons a as ih =>
      rw [List.flatMap_cons, List.length_append, List.length_cons, attributeText]
      simp only [List.length_append, List.length_cons]
      omega

theorem tag?_written {tag : String} (htag : isTagName tag.toList = true) (as : List Attribute)
    (has : Legible as) (rest : List Char) :
    tag? (tag.toList ++ (as.flatMap attributeText ++ '>' :: rest)) =
      some (readTag tag as, rest) := by
  have hinside : ∀ c ∈ tag.toList, (!endsName c) = true := by
    simp only [isTagName, Bool.and_eq_true] at htag
    exact List.all_eq_true.mp htag.2
  obtain ⟨d, tail, htail, hd⟩ : ∃ d tail,
      as.flatMap attributeText ++ '>' :: rest = d :: tail ∧ endsName d = true := by
    cases as with
    | nil => exact ⟨'>', rest, rfl, by decide⟩
    | cons a as => exact ⟨' ', _, rfl, by decide⟩
  have htake : (tag.toList ++ d :: tail).takeWhile (fun c => !endsName c) = tag.toList := by
    rw [List.takeWhile_append_of_pos hinside]
    simp [hd]
  have hdrop : (tag.toList ++ d :: tail).dropWhile (fun c => !endsName c) = d :: tail := by
    rw [List.dropWhile_append_of_pos hinside]
    simp [hd]
  have hlength : as.length < (d :: tail).length + 1 := by
    have hle := length_le_length_attributes as
    rw [← htail, List.length_append, List.length_cons]
    omega
  have hread := attributes?_written has.1 [] (by simpa using has.2) hlength rest
  rw [htail] at hread ⊢
  rw [tag?, hdrop, htake, hread]
  rfl

theorem exists_cons_of_isTagName {cs : List Char} (h : isTagName cs = true) :
    ∃ c tail, cs = c :: tail ∧ c.isAlpha = true := by
  cases cs with
  | nil => simp [isTagName] at h
  | cons c cs =>
      simp only [isTagName, Bool.and_eq_true] at h
      exact ⟨c, cs, rfl, by simpa using h.1⟩

/-- **A written opening tag is read as it is written**, with names in small letters. -/
theorem nextInMarkup_opening {tag : String} (htag : isTagName tag.toList = true)
    {as : List Attribute} (has : Legible as) (foreign : Bool) (rest : List Char) :
    nextInMarkup foreign (openingText tag as ++ rest) =
      ([.opening (readTag tag as)], rest) := by
  have hread := tag?_written htag as has rest
  obtain ⟨c, cs, hcs, hc⟩ := exists_cons_of_isTagName htag
  have htext : openingText tag as ++ rest =
      '<' :: (tag.toList ++ (as.flatMap attributeText ++ '>' :: rest)) := by
    simp [openingText]
  rw [htext, nextInMarkup, hread, if_pos (by simp [hcs, hc])]

/-- **A written closing tag is read as it is written**, with its name in small letters. -/
theorem nextInMarkup_closing {tag : String} (htag : isTagName tag.toList = true)
    (foreign : Bool) (rest : List Char) :
    nextInMarkup foreign (closingText tag ++ rest) = ([.closing (readName tag)], rest) := by
  have hread := tag?_written htag [] ⟨by simp, List.nodup_nil⟩ rest
  obtain ⟨c, cs, hcs, hc⟩ := exists_cons_of_isTagName htag
  have htext : closingText tag ++ rest = '<' :: '/' :: c :: (cs ++ '>' :: rest) := by
    simp [closingText, hcs]
  have hslash : ¬ (('/' :: c :: (cs ++ '>' :: rest)).head?.any Char.isAlpha = true) := by
    rw [List.head?_cons]
    decide
  have hgt : c ≠ '>' := by
    rintro rfl
    exact absurd hc (by decide)
  rw [hcs] at hread
  have hname : (readTag tag []).name = readName tag := rfl
  rw [htext, nextInMarkup, if_neg hslash]
  unfold afterBracket
  split
  all_goals simp_all

theorem length_lt_opening (tag : String) (as : List Attribute) (rest : List Char) :
    rest.length < (openingText tag as ++ rest).length := by
  simp only [openingText, List.length_append, List.length_cons]
  omega

theorem length_lt_closing (tag : String) (rest : List Char) :
    rest.length < (closingText tag ++ rest).length := by
  simp only [closingText, List.length_append, List.length_cons]
  omega

/-! ## Comments and declarations -/

/-- A comment as it is written. -/
def commentText (s : String) : List Char :=
  '<' :: '!' :: '-' :: '-' :: (Node.paddedText s).toList ++ ['-', '-', '>']

/-- A text that does not end the comment that it stands in. -/
def Enclosable (cs : List Char) : Prop :=
  Lacks ['-', '-', '>'] cs ∧ Lacks ['-', '-', '!', '>'] cs ∧ '\x00' ∉ cs

/-- The body of a comment with a blank at its end. -/
theorem commentBody_written (cs : List Char) (hend : Lacks ['-', '-', '>'] cs)
    (hbang : Lacks ['-', '-', '!', '>'] cs) (reversed rest : List Char) :
    commentBody reversed (cs ++ ' ' :: '-' :: '-' :: '>' :: rest) =
      (' ' :: (cs.reverse ++ reversed), rest) := by
  induction cs generalizing reversed with
  | nil => simp [commentBody]
  | cons c cs ih =>
      have htail := ih (hend.of_infix (List.suffix_cons c cs).isInfix)
        (hbang.of_infix (List.suffix_cons c cs).isInfix) (c :: reversed)
      rw [List.cons_append]
      unfold commentBody
      split
      · simp_all
      · rename_i heq
        rcases cs with _ | ⟨d, _ | ⟨e, cs⟩⟩ <;> simp at heq
        obtain ⟨rfl, rfl, rfl, -⟩ := heq
        exact absurd ⟨[], cs, rfl⟩ hend
      · rename_i heq
        rcases cs with _ | ⟨d, _ | ⟨e, _ | ⟨f, cs⟩⟩⟩ <;> simp at heq
        obtain ⟨rfl, rfl, rfl, rfl, -⟩ := heq
        exact absurd ⟨[], cs, rfl⟩ hbang
      · rename_i heq
        obtain ⟨rfl, rfl⟩ := List.cons.inj heq
        simp [htail]

/-- **A written comment is read with its padding.** -/
theorem nextInMarkup_comment {s : String} (hs : Enclosable (Text.trim s.toList))
    (foreign : Bool) (rest : List Char) :
    nextInMarkup foreign (commentText s ++ rest) = ([.comment (Node.paddedText s)], rest) := by
  obtain ⟨hend, hbang, hshown⟩ := hs
  have hpadded : (Node.paddedText s).toList = ' ' :: (Text.trim s.toList ++ [' ']) := by
    simp [Node.paddedText, Text.trimmed]
  have htext : commentText s ++ rest = '<' :: '!' :: '-' :: '-' ::
      (' ' :: Text.trim s.toList ++ ' ' :: '-' :: '-' :: '>' :: rest) := by
    simp [commentText, hpadded]
  have hbody := commentBody_written (' ' :: Text.trim s.toList)
    (Text.lacks_cons (by simp) (by simp) hend) (Text.lacks_cons (by simp) (by simp) hbang) [] rest
  have hshow : shownText (' ' :: (Text.trim s.toList ++ [' '])) = Node.paddedText s := by
    rw [shownText_of_not_mem (by simp [hshown]), ← hpadded, String.ofList_toList]
  rw [htext, nextInMarkup, if_neg (by simp)]
  simp only [List.cons_append] at hbody ⊢
  simp [afterBracket, comment, hbody, hshow]

/-- A declaration as it is written. -/
def doctypeText (name : String) : List Char :=
  ['<', '!', 'D', 'O', 'C', 'T', 'Y', 'P', 'E', ' '] ++ name.toList ++ ['>']

/-- The name of a declaration and its end. -/
theorem doctype_written {name : String} (hne : name.toList ≠ [])
    (hname : name.toList.all isNameChar = true) (rest : List Char) :
    doctype (' ' :: (name.toList ++ '>' :: rest)) = ({ name := some name }, rest) := by
  obtain ⟨c, cs, hcs⟩ := List.exists_cons_of_ne_nil hne
  have hinside : ∀ d ∈ name.toList, (!(isGap d || d == '>')) = true := by
    intro d hd
    have hd := endsName_of_isNameChar (List.all_eq_true.mp hname d hd)
    simp only [endsName, Bool.or_eq_false_iff] at hd
    simp [hd.1.1, hd.2]
  obtain ⟨hgap, hgt⟩ : isGap c = false ∧ c ≠ '>' := by
    simpa using hinside c (by simp [hcs])
  have hstart : dropGaps (' ' :: (name.toList ++ '>' :: rest)) =
      c :: (cs ++ '>' :: rest) := by
    rw [← dropGaps_cons_of_not_gap hgap, hcs]
    rfl
  have htake : (c :: (cs ++ '>' :: rest)).takeWhile (fun d => !(isGap d || d == '>')) =
      name.toList := by
    rw [← List.cons_append, ← hcs, List.takeWhile_append_of_pos hinside]
    simp
  have hdrop : (c :: (cs ++ '>' :: rest)).dropWhile (fun d => !(isGap d || d == '>')) =
      '>' :: rest := by
    rw [← List.cons_append, ← hcs, List.dropWhile_append_of_pos hinside]
    simp
  have hend : dropGaps ('>' :: rest) = '>' :: rest := dropGaps_cons_of_not_gap (by decide) rest
  rw [doctype, hstart]
  split
  · simp_all
  · simp_all
  · simp only [htake, hdrop, hend, nameText_of_all hname, String.ofList_toList]

/-- **A written declaration is read with its name alone.** -/
theorem nextInMarkup_doctype {name : String} (hne : name.toList ≠ [])
    (hname : name.toList.all isNameChar = true) (foreign : Bool) (rest : List Char) :
    nextInMarkup foreign (doctypeText name ++ rest) = ([.doctype { name := some name }], rest) := by
  have htext : doctypeText name ++ rest = '<' :: '!' :: 'D' :: 'O' :: 'C' :: 'T' :: 'Y' :: 'P' ::
      'E' :: ' ' :: (name.toList ++ '>' :: rest) := by
    simp [doctypeText]
  have hkeyword : beginsWith ['d', 'o', 'c', 't', 'y', 'p', 'e'] ('D' :: 'O' :: 'C' :: 'T' ::
      'Y' :: 'P' :: 'E' :: ' ' :: (name.toList ++ '>' :: rest)) = true :=
    beginsWith_append ['D', 'O', 'C', 'T', 'Y', 'P', 'E'] (by decide) _
  rw [htext, nextInMarkup, if_neg (by simp)]
  simp [afterBracket, hkeyword, doctype_written hne hname]

/-! ## Texts -/

/-- **A character of an escaped text is read as itself.** -/
theorem nextInMarkup_escaped (c : Char) (cs : List Char) :
    ∃ front, front ≠ [] ∧
      escapeText ['&', '<', '>'] (c :: cs) = front ++ escapeText ['&', '<', '>'] cs ∧
        ∀ foreign rest, nextInMarkup foreign (front ++ rest) = ([.char c], rest) := by
  rcases escapeText_cons_cases escapable_text c cs with ⟨name, hname, heq⟩ | ⟨hc, heq⟩
  · refine ⟨'&' :: (name ++ [';']), by simp, by simp [heq], fun foreign rest => ?_⟩
    have htokens := ampersandTokens_escapeName hname rest
    simp [nextInMarkup, htokens]
  · refine ⟨[c], by simp, heq, fun foreign rest => ?_⟩
    simp only [List.mem_cons, List.not_mem_nil, or_false, not_or] at hc
    rw [List.singleton_append]
    unfold nextInMarkup
    split
    all_goals simp_all

/-! ## Content that is not markup -/

theorem closes_of_isSmallName {tag : List Char} (htag : isSmallName tag = true)
    (rest : List Char) : closes tag ('/' :: (tag ++ '>' :: rest)) = true := by
  simp only [isSmallName, Bool.and_eq_true] at htag
  have hlower : ('/' :: tag).map Char.toLower = '/' :: tag := by
    refine congrArg₂ List.cons (by decide) ?_
    refine (List.map_congr_left fun c hc => ?_).trans (List.map_id tag)
    exact toLower_of_isNameChar (List.all_eq_true.mp htag.2 c hc)
  have hbegins := beginsWith_append _ hlower ('>' :: rest)
  rw [List.cons_append] at hbegins
  simp [closes, hbegins, endsName]

theorem eq_slash_of_closes {tag cs : List Char} {c : Char} (h : closes tag (c :: cs) = true) :
    c = '/' := by
  simp only [closes, Bool.and_eq_true] at h
  have hlower : c.toLower = '/' := by
    have hbegins := h.1
    simp only [beginsWith, List.length_cons, List.take_succ_cons, List.map_cons,
      List.isPrefixOf_cons_cons, Bool.and_eq_true, beq_iff_eq] at hbegins
    exact hbegins.1.symm
  unfold Char.toLower at hlower
  split at hlower
  · -- A capital letter becomes a small one.
    rename_i hupper
    have hsum : (c.val.toNat + 32) % 4294967296 = 47 := congrArg (·.val.toNat) hlower
    have hle : c.val.toNat ≤ 90 := UInt32.le_iff_toNat_le.mp hupper.2
    have hge : 65 ≤ c.val.toNat := UInt32.le_iff_toNat_le.mp hupper.1
    omega
  · exact hlower

/-- A text without the front of a closing tag does not close where it begins. -/
theorem not_closes_of_lacks {c : Char} {cs : List Char} (h : Lacks ['<', '/'] (c :: cs))
    {tag rest : List Char} : ¬ (c = '<' && closes tag (cs ++ '<' :: '/' :: rest)) = true := by
  simp only [Bool.and_eq_true, decide_eq_true_eq, not_and]
  rintro rfl hcloses
  cases cs with
  | nil => exact absurd (eq_slash_of_closes hcloses) (by decide)
  | cons d cs =>
      obtain rfl := eq_slash_of_closes hcloses
      exact h ⟨[], cs, rfl⟩

/-- **Content without the front of a closing tag reaches up to the closing tag.** -/
theorem untilClosing_append {cs : List Char} (hcs : Lacks ['<', '/'] cs) {tag rest : List Char}
    (hclose : closes tag ('/' :: rest) = true) :
    untilClosing tag (cs ++ '<' :: '/' :: rest) = (cs, '<' :: '/' :: rest) := by
  induction cs with
  | nil => simp [untilClosing, hclose]
  | cons c cs ih =>
      have htail := ih (hcs.of_infix (List.suffix_cons c cs).isInfix)
      rw [List.cons_append, untilClosing, if_neg (not_closes_of_lacks hcs), htail]

/-! ### Content that is taken as it stands

Whether content reaches up to a closing tag can be seen from the content and that tag alone. -/

theorem closes_append (tag : List Char) {cs : List Char} (h : tag.length + 2 ≤ cs.length)
    (rest : List Char) : closes tag (cs ++ rest) = closes tag cs := by
  have hne : cs.drop (tag.length + 1) ≠ [] := by
    rw [Ne, List.drop_eq_nil_iff]
    omega
  have hhead : ((cs ++ rest).drop (tag.length + 1)).head? = (cs.drop (tag.length + 1)).head? := by
    rw [List.drop_append_of_le_length (by omega), List.head?_append_of_ne_nil _ hne]
  rw [closes, closes, hhead, beginsWith, beginsWith,
    List.take_append_of_le_length (by simp only [List.length_cons]; omega)]

/-- **Content that ends with a closing tag ends with it whatever follows.** -/
theorem untilClosing_append_of_eq {tag cs close : List Char} (hlong : tag.length + 2 < close.length)
    (h : untilClosing tag (cs ++ close) = (cs, close)) (rest : List Char) :
    untilClosing tag (cs ++ (close ++ rest)) = (cs, close ++ rest) := by
  induction cs with
  | nil =>
      obtain ⟨c, x, rfl⟩ := List.exists_cons_of_length_pos (by omega : 0 < close.length)
      have hclose := closes_append tag (Nat.le_of_lt_succ hlong) rest
      rw [List.nil_append, untilClosing] at h
      rw [List.nil_append, List.cons_append, untilClosing, hclose]
      split at h
      · rw [if_pos ‹_›]
      · simp at h
  | cons c cs ih =>
      have hclose : closes tag (cs ++ (close ++ rest)) = closes tag (cs ++ close) := by
        rw [← List.append_assoc]
        exact closes_append tag (by simp only [List.length_append]; omega) rest
      rw [List.cons_append, untilClosing] at h
      rw [List.cons_append, untilClosing, hclose]
      split at h
      · simp at h
      · obtain ⟨hcontent, hrest⟩ := Prod.mk.inj h
        rw [if_neg ‹_›, ih (Prod.ext (List.cons.inj hcontent).2 hrest)]

/-- How deep a script is behind a character with a text behind it, and how many dashes there were;
nothing if the script ends there. -/
def scriptStep (depth : ScriptDepth) (dashes : Nat) (c : Char) (cs : List Char) :
    Option (ScriptDepth × Nat) :=
  match depth with
  | .none =>
    if c = '<' && closes "script".toList cs then none
    else if c = '<' && "!--".toList.isPrefixOf cs then some (.comment, 0)
    else some (.none, 0)
  | .comment =>
    if c = '-' then some (.comment, min 2 (dashes + 1))
    else if c = '>' && dashes = 2 then some (.none, 0)
    else if c = '<' then
      if closes "script".toList cs then none
      else if beginsWith "script".toList cs && (cs.drop 6).head?.any endsName then some (.inner, 0)
      else some (.comment, 0)
    else some (.comment, 0)
  | .inner =>
    if c = '-' then some (.inner, min 2 (dashes + 1))
    else if c = '>' && dashes = 2 then some (.none, 0)
    else if c = '<' && closes "script".toList cs then some (.comment, 0)
    else some (.inner, 0)

theorem scriptContent_cons (depth : ScriptDepth) (dashes : Nat) (c : Char) (cs : List Char) :
    scriptContent depth dashes (c :: cs) = (scriptStep depth dashes c cs).elim ([], c :: cs)
      fun next => (c :: (scriptContent next.1 next.2 cs).1, (scriptContent next.1 next.2 cs).2) := by
  cases depth <;> simp only [scriptContent, scriptStep] <;> split_ifs <;> rfl

theorem scriptStep_append (depth : ScriptDepth) (dashes : Nat) (c : Char) {cs : List Char}
    (h : 8 ≤ cs.length) (rest : List Char) :
    scriptStep depth dashes c (cs ++ rest) = scriptStep depth dashes c cs := by
  have hclose : closes "script".toList (cs ++ rest) = closes "script".toList cs :=
    closes_append "script".toList (by simpa using h) rest
  have hcomment : "!--".toList.isPrefixOf (cs ++ rest) = "!--".toList.isPrefixOf cs := by
    obtain ⟨x, y, z, w, rfl⟩ : ∃ x y z w, cs = x :: y :: z :: w := by
      rcases cs with _ | ⟨x, _ | ⟨y, _ | ⟨z, w⟩⟩⟩
      all_goals simp at h ⊢
    simp [List.isPrefixOf]
  have hbegins : beginsWith "script".toList (cs ++ rest) = beginsWith "script".toList cs := by
    rw [beginsWith, beginsWith, List.take_append_of_le_length]
    exact Nat.le_trans (by decide) h
  have hne : cs.drop 6 ≠ [] := by
    rw [Ne, List.drop_eq_nil_iff]
    omega
  have hhead : ((cs ++ rest).drop 6).head? = (cs.drop 6).head? := by
    rw [List.drop_append_of_le_length (by omega), List.head?_append_of_ne_nil _ hne]
  cases depth <;> simp only [scriptStep, hclose, hcomment, hbegins, hhead]

/-- **So does a script.** -/
theorem scriptContent_append_of_eq {cs close : List Char} (hlong : 8 < close.length)
    {depth : ScriptDepth} {dashes : Nat}
    (h : scriptContent depth dashes (cs ++ close) = (cs, close)) (rest : List Char) :
    scriptContent depth dashes (cs ++ (close ++ rest)) = (cs, close ++ rest) := by
  induction cs generalizing depth dashes with
  | nil =>
      obtain ⟨c, x, rfl⟩ := List.exists_cons_of_length_pos (by omega : 0 < close.length)
      have hstep := scriptStep_append depth dashes c (Nat.le_of_lt_succ hlong) rest
      rw [List.nil_append, scriptContent_cons] at h
      rw [List.nil_append, List.cons_append, scriptContent_cons, hstep]
      cases hnext : scriptStep depth dashes c x with
      | none => rfl
      | some next => simp [hnext] at h
  | cons c cs ih =>
      have hstep : scriptStep depth dashes c (cs ++ (close ++ rest)) =
          scriptStep depth dashes c (cs ++ close) := by
        rw [← List.append_assoc]
        exact scriptStep_append depth dashes c (by simp only [List.length_append]; omega) rest
      rw [List.cons_append, scriptContent_cons] at h
      rw [List.cons_append, scriptContent_cons, hstep]
      cases hnext : scriptStep depth dashes c (cs ++ close) with
      | none => simp [hnext] at h
      | some next =>
          rw [hnext] at h
          obtain ⟨hcontent, hrest⟩ := Prod.mk.inj h
          rw [Option.elim_some, ih (Prod.ext (List.cons.inj hcontent).2 hrest)]

end Expectation.Html
