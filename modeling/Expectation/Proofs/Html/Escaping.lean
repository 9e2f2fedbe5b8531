import Expectation.Html.Printing
import Expectation.Html.Token
import Expectation.Proofs.Text.Pieces

/-!
# Escaped texts

A written page escapes a few characters by their names.  Reading takes the longest name that
fits, so what has to be known about the table of names is that it has these four and no other
that begins one of them.  Then a name with its semicolon is read as its character whatever
stands behind it, and reading undoes escaping.

The table is gone through line by line: the lines are long, and as lists of characters they are
checked one at a time.

## Main results

* `fits_namedCharacters`: no other name of the table begins a name that escaping uses.
* `decodeReferences_escapeText`: decoding undoes escaping.
* `referenceTokens_escapeText`: so do the tokens of a text with references.
-/

namespace Expectation.Html

/-! ## The table of names -/

/-- The names that escaping uses, with the characters they stand for. -/
def escapeNames : List (List Char × Char) :=
  [(['a', 'm', 'p'], '&'), (['l', 't'], '<'), (['g', 't'], '>'), (['q', 'u', 'o', 't'], '"')]

/-- A name of the table that goes together with those of escaping: it is one of them or begins
none of them. -/
def NamedCharacter.fits (e : NamedCharacter) : Bool :=
  !e.name.contains ';' && escapeNames.all fun (name, c) =>
    !e.name.isPrefixOf name || (e.name == name && e.chars == [c])

theorem exists_item_ofList {p : List Char → Bool} {cs : List Char}
    (h : (lineItems cs).any p = true) :
    ∃ item ∈ lineItems (String.ofList cs).toList, p item = true := by
  rw [String.toList_ofList]
  exact List.any_eq_true.mp h

theorem exists_named_of_line {name : List Char} {line : String}
    (hline : line ∈ namedCharacterLines)
    (h : ∃ item ∈ lineItems line.toList, (NamedCharacter.ofItem item).name == name) :
    ∃ e ∈ namedCharacters, e.name = name := by
  obtain ⟨item, hitem, hname⟩ := h
  exact ⟨_, List.mem_flatMap.mpr ⟨line, hline, List.mem_map_of_mem hitem⟩, by simpa using hname⟩

theorem exists_named {name : List Char} {c : Char} (h : (name, c) ∈ escapeNames) :
    ∃ e ∈ namedCharacters, e.name = name := by
  have hline : ∀ {i : Nat} {line : String}, namedCharacterLines[i]? = some line →
      line ∈ namedCharacterLines := List.mem_of_getElem?
  simp only [escapeNames, List.mem_cons, Prod.mk.injEq, List.not_mem_nil, or_false] at h
  rcases h with ⟨rfl, -⟩ | ⟨rfl, -⟩ | ⟨rfl, -⟩ | ⟨rfl, -⟩
  · exact exists_named_of_line (hline (i := 104) rfl) (exists_item_ofList (by decide +kernel))
  · exact exists_named_of_line (hline (i := 198) rfl) (exists_item_ofList (by decide +kernel))
  · exact exists_named_of_line (hline (i := 165) rfl) (exists_item_ofList (by decide +kernel))
  · exact exists_named_of_line (hline (i := 245) rfl) (exists_item_ofList (by decide +kernel))

/-- Every item of a line, and the rest of one unless it `starts`, begins with a character with
which no name of escaping begins, and has no semicolon. -/
def passesBy : Bool → List Char → Bool
  | starts, [] => !starts
  | starts, c :: cs =>
    c != ';' && !(starts && ['a', 'l', 'g', 'q', '=', '~', ' '].contains c) &&
      passesBy (c == ' ') cs

/-- An item that begins with a character with which no name of escaping begins. -/
structure Apart (item : List Char) : Prop where
  begins : ∃ c rest, item = c :: rest ∧ c ∉ ['a', 'l', 'g', 'q', '=', '~', ' ']
  not_mem : ';' ∉ item

theorem Apart.fits {item : List Char} (h : Apart item) : (NamedCharacter.ofItem item).fits = true := by
  obtain ⟨c, rest, rfl, hc⟩ := h.begins
  simp only [List.mem_cons, List.not_mem_nil, or_false, not_or] at hc
  have hname : (NamedCharacter.ofItem (c :: rest)).name =
      c :: (NamedCharacter.ofItem rest).name := by
    simp [NamedCharacter.ofItem, hc]
  have hnone : ';' ∉ (NamedCharacter.ofItem (c :: rest)).name := by
    intro hmem
    simp only [NamedCharacter.ofItem] at hmem
    exact h.not_mem ((List.takeWhile_prefix _).subset hmem)
  rw [NamedCharacter.fits, List.contains_eq_mem, decide_eq_false hnone, hname]
  simp [escapeNames, List.isPrefixOf, hc]

/-- What is passed by is apart. -/
theorem apart_of_passesBy {starts : Bool} {cs : List Char} (h : passesBy starts cs = true) :
    ∃ item items, lineItems cs = item :: items ∧ ';' ∉ item ∧ (starts = true → Apart item) ∧
      ∀ other ∈ items, Apart other := by
  induction cs generalizing starts with
  | nil =>
      have hwithin : starts = false := by simpa [passesBy] using h
      exact ⟨[], [], rfl, by simp, by simp [hwithin], by simp⟩
  | cons c cs ih =>
      rw [passesBy, Bool.and_eq_true, Bool.and_eq_true, bne_iff_ne] at h
      obtain ⟨⟨hsemicolon, hbegins⟩, hrest⟩ := h
      obtain ⟨item, items, hitems, hnone, hapart, hothers⟩ := ih hrest
      by_cases hspace : c = ' '
      · subst hspace
        have hwithin : starts = false := by simpa using hbegins
        refine ⟨[], item :: items, by rw [lineItems, if_pos rfl, hitems], by simp,
          by simp [hwithin], ?_⟩
        exact List.forall_mem_cons.mpr ⟨hapart rfl, hothers⟩
      · have hnone' : ';' ∉ c :: item := by simp [hnone, Ne.symm hsemicolon]
        refine ⟨c :: item, items, by rw [lineItems, if_neg hspace, hitems], hnone', ?_, hothers⟩
        rintro rfl
        exact ⟨⟨c, item, rfl, by simpa using hbegins⟩, hnone'⟩

/-- The items of most lines are apart, and those of the others are checked one by one. -/
theorem fits_items_of_checked {cs : List Char}
    (h : (passesBy true cs ||
      (lineItems cs).all fun item => (NamedCharacter.ofItem item).fits) = true) :
    ∀ item ∈ lineItems cs, (NamedCharacter.ofItem item).fits = true := by
  rcases Bool.or_eq_true_iff.mp h with hpasses | hchecked
  · obtain ⟨first, others, hitems, -, hfirst, hothers⟩ := apart_of_passesBy hpasses
    rw [hitems]
    exact List.forall_mem_cons.mpr ⟨(hfirst rfl).fits, fun item hi => (hothers item hi).fits⟩
  · exact List.all_eq_true.mp hchecked

theorem fits_lineItems : ∀ line ∈ namedCharacterLines, ∀ item ∈ lineItems line.toList,
    (NamedCharacter.ofItem item).fits = true := by
  refine fun line hline => fits_items_of_checked ?_
  exact Text.Spelled.forall
    (p := fun cs => (passesBy true cs ||
      (lineItems cs).all fun item => (NamedCharacter.ofItem item).fits) = true)
    (by unfold namedCharacterLines; repeat' constructor) (by decide +kernel) line hline

/-- **No other name of the table begins a name that escaping uses.** -/
theorem fits_namedCharacters : ∀ e ∈ namedCharacters, e.fits = true := by
  intro e he
  obtain ⟨line, hline, he⟩ := List.mem_flatMap.mp he
  obtain ⟨item, hitem, rfl⟩ := List.mem_map.mp he
  exact fits_lineItems line hline item hitem

/-! ## Reading a name -/

/-- What fits is at the front of a text with a name of escaping only if it is this name. -/
theorem length?_of_fits {name : List Char} {c : Char} (h : (name, c) ∈ escapeNames)
    {e : NamedCharacter} (he : e.fits = true) (rest : List Char) :
    e.length? (name ++ ';' :: rest) = none ∨
      e.length? (name ++ ';' :: rest) = some (name.length + 1) ∧ e.name = name ∧
        e.chars = [c] := by
  simp only [NamedCharacter.fits, Bool.and_eq_true, List.all_eq_true] at he
  have hsemicolon : ';' ∉ e.name := by simpa using he.1
  have hname : ¬ e.name <+: name ∨ e.name = name ∧ e.chars = [c] := by
    simpa [← List.isPrefixOf_iff_prefix] using he.2 _ h
  rcases hname with hbegins | ⟨hname, hchars⟩
  · have hfront : ¬ e.name <+: name ++ ';' :: rest := by
      intro hfront
      have hclosed : name ++ [';'] <+: name ++ ';' :: rest := ⟨rest, by simp⟩
      by_cases hle : e.name.length ≤ name.length
      · exact hbegins (List.prefix_of_prefix_length_le hfront ⟨_, rfl⟩ hle)
      · -- A longer name would hold the semicolon.
        have hlong : name ++ [';'] <+: e.name :=
          List.prefix_of_prefix_length_le hclosed hfront (by simp; omega)
        exact hsemicolon (hlong.subset (by simp))
    exact .inl (if_neg (by rwa [List.isPrefixOf_iff_prefix]))
  · exact .inr ⟨by simp [NamedCharacter.length?, hname], hname, hchars⟩

/-- What is found at the front of a text with a name of escaping is its character. -/
theorem longestNamed_of_fits {name : List Char} {c : Char} (h : (name, c) ∈ escapeNames)
    (rest : List Char) {es : List NamedCharacter} (hfits : ∀ e ∈ es, e.fits = true) :
    longestNamed (name ++ ';' :: rest) es = none ∧ (∀ e ∈ es, e.name ≠ name) ∨
      ∃ e, longestNamed (name ++ ';' :: rest) es = some (name.length + 1, e) ∧
        e.name = name ∧ e.chars = [c] := by
  induction es with
  | nil => exact .inl ⟨rfl, by simp⟩
  | cons e es ih =>
      have htail := ih fun f hf => hfits f (List.mem_cons_of_mem e hf)
      have hself : e.name = name → e.length? (name ++ ';' :: rest) ≠ none := by
        intro hname
        simp [NamedCharacter.length?, hname]
      rcases length?_of_fits h (hfits e List.mem_cons_self) rest with hnone | ⟨hsome, hname, hchars⟩
      · have hne : e.name ≠ name := fun hname => hself hname hnone
        rcases htail with ⟨hrest, hothers⟩ | ⟨f, hrest, hf⟩
        · exact .inl ⟨by simp [longestNamed, hnone, hrest], List.forall_mem_cons.mpr ⟨hne, hothers⟩⟩
        · exact .inr ⟨f, by simp [longestNamed, hnone, hrest], hf⟩
      · right
        rcases htail with ⟨hrest, -⟩ | ⟨f, hrest, hf⟩
        · exact ⟨e, by simp [longestNamed, hsome, hrest], hname, hchars⟩
        · exact ⟨f, by simp [longestNamed, hsome, hrest], hf⟩

/-- **A name of escaping with its semicolon is read as its character.** -/
theorem named?_escapeName {name : List Char} {c : Char} (h : (name, c) ∈ escapeNames)
    (inAttribute : Bool) (rest : List Char) :
    named? inAttribute (name ++ ';' :: rest) = some ([c], rest) := by
  obtain ⟨e, hmem, hname⟩ := exists_named h
  rcases longestNamed_of_fits h rest fits_namedCharacters with ⟨-, hnot⟩ | ⟨f, hfound, hf, hchars⟩
  · exact absurd hname (hnot e hmem)
  · -- the table stays closed: an equation for the reading would evaluate it
    delta named?
    simp [hfound, hf, hchars]

/-- The names of escaping are words, not numbers. -/
theorem exists_cons_of_escapeName {name : List Char} {c : Char} (h : (name, c) ∈ escapeNames) :
    ∃ d tail, name = d :: tail ∧ d ≠ '#' := by
  simp only [escapeNames, List.mem_cons, Prod.mk.injEq, List.not_mem_nil, or_false] at h
  rcases h with ⟨rfl, -⟩ | ⟨rfl, -⟩ | ⟨rfl, -⟩ | ⟨rfl, -⟩ <;> exact ⟨_, _, rfl, by decide⟩

theorem afterAmpersand_escapeName {name : List Char} {c : Char} (h : (name, c) ∈ escapeNames)
    (inAttribute : Bool) (rest : List Char) :
    afterAmpersand inAttribute (name ++ ';' :: rest) = ([c], rest) := by
  have hnamed := named?_escapeName h inAttribute rest
  obtain ⟨d, tail, rfl, hd⟩ := exists_cons_of_escapeName h
  rw [List.cons_append] at hnamed ⊢
  unfold afterAmpersand
  split
  all_goals first | exact absurd (List.cons.inj ‹_›).1 hd | rw [hnamed]; rfl

theorem ampersandTokens_escapeName {name : List Char} {c : Char} (h : (name, c) ∈ escapeNames)
    (rest : List Char) : ampersandTokens (name ++ ';' :: rest) = ([.char c], rest) := by
  have hafter := afterAmpersand_escapeName h false rest
  obtain ⟨d, tail, rfl, hd⟩ := exists_cons_of_escapeName h
  have hnumber : lacksSemicolon (d :: tail ++ ';' :: rest) = false := by
    unfold lacksSemicolon
    split
    all_goals first | exact absurd (List.cons.inj ‹_›).1 hd | rfl
  rw [ampersandTokens, hafter, hnumber]
  rfl

/-! ## Reading undoes escaping -/

/-- Characters that escaping can spare no ampersand for. -/
def Escapable (special : List Char) : Prop :=
  '&' ∈ special ∧ ∀ c ∈ special, ∃ name, (name, c) ∈ escapeNames

theorem escapable_text : Escapable ['&', '<', '>'] := by
  refine ⟨by simp, ?_⟩
  simp [escapeNames]

theorem escapable_value : Escapable ['&', '"'] := by
  refine ⟨by simp, ?_⟩
  simp [escapeNames]

/-- **What a character becomes**: its name, or itself. -/
theorem escapeText_cons_cases {special : List Char} (hs : Escapable special) (c : Char)
    (cs : List Char) :
    (∃ name, (name, c) ∈ escapeNames ∧
      escapeText special (c :: cs) = '&' :: (name ++ ';' :: escapeText special cs)) ∨
    c ∉ special ∧ escapeText special (c :: cs) = c :: escapeText special cs := by
  by_cases hc : c ∈ special
  · left
    obtain ⟨name, hname⟩ := hs.2 c hc
    refine ⟨name, hname, ?_⟩
    simp only [escapeNames, List.mem_cons, Prod.mk.injEq, List.not_mem_nil, or_false] at hname
    rcases hname with ⟨rfl, rfl⟩ | ⟨rfl, rfl⟩ | ⟨rfl, rfl⟩ | ⟨rfl, rfl⟩
    all_goals
      rw [escapeText, List.flatMap_cons, if_pos (List.contains_iff_mem.mpr hc)]
      rfl
  · have hkept : ¬ special.contains c = true := fun h => hc (List.contains_iff_mem.mp h)
    refine .inr ⟨hc, ?_⟩
    rw [escapeText, List.flatMap_cons, if_neg hkept]
    rfl

theorem decodeWithin_escapeText {special : List Char} (hs : Escapable special)
    (inAttribute : Bool) {cs : List Char} {fuel : Nat}
    (hfuel : (escapeText special cs).length ≤ fuel) :
    decodeWithin inAttribute fuel (escapeText special cs) = cs := by
  induction cs generalizing fuel with
  | nil => cases fuel <;> rfl
  | cons c cs ih =>
      rcases escapeText_cons_cases hs c cs with ⟨name, hname, heq⟩ | ⟨hc, heq⟩
      · rw [heq] at hfuel ⊢
        obtain ⟨fuel, rfl⟩ : ∃ m, fuel = m + 1 := ⟨fuel - 1, by simp at hfuel; omega⟩
        have hrest : (escapeText special cs).length ≤ fuel := by simp at hfuel; omega
        simp [decodeWithin, afterAmpersand_escapeName hname, ih hrest]
      · rw [heq] at hfuel ⊢
        obtain ⟨fuel, rfl⟩ : ∃ m, fuel = m + 1 := ⟨fuel - 1, by simp at hfuel; omega⟩
        have hne : c ≠ '&' := fun h => hc (h ▸ hs.1)
        simp [decodeWithin, hne, ih (by simpa using hfuel)]

/-- **Decoding undoes escaping.** -/
theorem decodeReferences_escapeText {special : List Char} (hs : Escapable special)
    (inAttribute : Bool) (cs : List Char) :
    decodeReferences inAttribute (escapeText special cs) = cs :=
  decodeWithin_escapeText hs inAttribute (Nat.le_refl _)

/-- **The tokens of an escaped text are its characters.** -/
theorem referenceTokens_escapeText {special : List Char} (hs : Escapable special)
    {cs : List Char} (hshown : '\x00' ∉ cs) {fuel : Nat}
    (hfuel : (escapeText special cs).length ≤ fuel) :
    referenceTokens fuel (escapeText special cs) = cs.map .char := by
  induction cs generalizing fuel with
  | nil => cases fuel <;> rfl
  | cons c cs ih =>
      obtain ⟨hc0, hcs0⟩ : '\x00' ≠ c ∧ '\x00' ∉ cs := by simpa using hshown
      rcases escapeText_cons_cases hs c cs with ⟨name, hname, heq⟩ | ⟨hc, heq⟩
      · rw [heq] at hfuel ⊢
        obtain ⟨fuel, rfl⟩ : ∃ m, fuel = m + 1 := ⟨fuel - 1, by simp at hfuel; omega⟩
        have hrest : (escapeText special cs).length ≤ fuel := by simp at hfuel; omega
        simp [referenceTokens, ampersandTokens_escapeName hname, ih hcs0 hrest]
      · rw [heq] at hfuel ⊢
        obtain ⟨fuel, rfl⟩ : ∃ m, fuel = m + 1 := ⟨fuel - 1, by simp at hfuel; omega⟩
        have hne : c ≠ '&' := fun h => hc (h ▸ hs.1)
        simp [referenceTokens, hne, shown, hc0.symm, ih hcs0 (by simpa using hfuel)]

end Expectation.Html
