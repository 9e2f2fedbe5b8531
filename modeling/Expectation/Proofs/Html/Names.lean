import Expectation.Html.Construction
import Expectation.Placeholder
import Expectation.Proofs.Html.Cells
import Expectation.Proofs.Text.Pieces

/-!
# The names in a page

The name of a tag, an attribute or a declared format is written in small letters
when a page is cut into tokens, and some names of drawings and formulas are then
spelled with capital letters again.  So no name holds the front of a sentinel, which
has both capital letters and underscores, wherever in the text a sentinel stands.

Names come into an unfinished page only with new elements, with attributes that are
added to an element, with a declaration and with remembered formatting.  `Unmarked`
says of each of these, and of a whole unfinished page, that its names are free of
the front of a sentinel; the rules for tokens keep that.

## Main results

* `unmarked_next`: the names in the tokens of any text.
* `unmarked_content`: the names in the parts of an unfinished page.
-/

namespace Expectation.Html

open Placeholder (sentinelFront)

/-! ## Names -/

/-- A name without the front of a sentinel. -/
def Unmarked (name : String) : Prop := Text.Lacks sentinelFront name.toList

instance (name : String) : Decidable (Unmarked name) :=
  inferInstanceAs (Decidable (¬ _))

theorem toLower_ne (c : Char) : c.toLower ≠ 'M' := by
  intro hM
  unfold Char.toLower at hM
  split at hM
  · -- A capital letter becomes a small one.
    rename_i hupper
    have hsum : (c.val.toNat + 32) % 4294967296 = 77 := congrArg (·.val.toNat) hM
    have hle : c.val.toNat ≤ 90 := UInt32.le_iff_toNat_le.mp hupper.2
    have hge : 65 ≤ c.val.toNat := UInt32.le_iff_toNat_le.mp hupper.1
    omega
  · rename_i hother
    rw [hM] at hother
    exact hother ⟨by decide, by decide⟩

/-- What a page writes as a name is in small letters. -/
theorem unmarked_nameText (cs : List Char) : Unmarked (nameText cs) := by
  refine Text.lacks_of_not_mem (c := 'M') (by decide) ?_
  rw [nameText, String.toList_ofList, List.mem_map]
  rintro ⟨c, -, hc⟩
  exact toLower_ne (shown c) hc

/-! ## Tokens -/

/-- The names in a tag are unmarked. -/
def Tag.Unmarked (tag : Tag) : Prop :=
  Html.Unmarked tag.name ∧ ∀ a ∈ tag.attributes, Html.Unmarked a.1

/-- The names in a token are unmarked. -/
def Token.Unmarked : Token → Prop
  | .opening tag => tag.Unmarked
  | .doctype d => ∀ name ∈ d.name, Html.Unmarked name
  | _ => True

theorem unmarked_attributes? {fuel : Nat} {seen as : List (String × String)}
    {cs rest : List Char} {selfClosing : Bool}
    (h : attributes? fuel seen cs = some (as, selfClosing, rest))
    (hseen : ∀ a ∈ seen, Unmarked a.1) : ∀ a ∈ as, Unmarked a.1 := by
  induction fuel generalizing seen cs with
  | zero => simp [attributes?] at h
  | succ fuel ih =>
      have hadd : ∀ (cs : List Char) (value : String),
          ∀ a ∈ (if seen.any (·.1 == nameText cs) then seen else (nameText cs, value) :: seen),
            Unmarked a.1 := by
        intro cs value a ha
        split at ha
        · exact hseen a ha
        · rcases List.mem_cons.mp ha with rfl | ha
          · exact unmarked_nameText cs
          · exact hseen a ha
      rw [attributes?] at h
      split at h
      · contradiction
      · cases h
        simpa using hseen
      · cases h
        simpa using hseen
      · exact ih h hseen
      · dsimp only at h
        split at h
        · split at h
          · contradiction
          · exact ih h (hadd _ _)
        · exact ih h (hadd _ _)

theorem unmarked_tag? {cs rest : List Char} {tag : Tag} (h : tag? cs = some (tag, rest)) :
    tag.Unmarked := by
  rw [tag?, Option.map_eq_some_iff] at h
  obtain ⟨⟨as, selfClosing, after⟩, has, heq⟩ := h
  cases heq
  exact ⟨unmarked_nameText _, unmarked_attributes? has fun _ h => absurd h List.not_mem_nil⟩

theorem name_doctypeEnd (d : Doctype) (cs : List Char) : (doctypeEnd d cs).1.name = d.name := by
  unfold doctypeEnd
  split <;> rfl

theorem name_systemPart (required : Bool) (d : Doctype) (cs : List Char) :
    (systemPart required d cs).1.name = d.name := by
  unfold systemPart
  dsimp only
  split <;> try rfl
  all_goals
    split
    · exact name_doctypeEnd _ _
    · rfl

theorem name_publicPart (d : Doctype) (cs : List Char) :
    (publicPart d cs).1.name = d.name := by
  unfold publicPart
  dsimp only
  split <;> try rfl
  all_goals
    split
    · exact name_systemPart _ _ _
    · rfl

theorem unmarked_doctype (cs : List Char) :
    ∀ name ∈ (doctype cs).1.name, Unmarked name := by
  have hname : ∀ cs : List Char, ∀ name ∈ some (nameText cs), Unmarked name := by
    rintro cs name ⟨⟩
    exact unmarked_nameText _
  unfold doctype
  split
  · rintro name ⟨⟩
  · rintro name ⟨⟩
  · dsimp only
    split
    · exact hname _
    · exact hname _
    · split
      · rw [name_publicPart]
        exact hname _
      · split
        · rw [name_systemPart]
          exact hname _
        · exact hname _

theorem unmarked_char {token : Token} {cs : List Char} (h : token ∈ charTokens cs) :
    token.Unmarked := by
  obtain ⟨c, -, rfl⟩ := List.mem_map.mp h
  trivial

theorem unmarked_ampersandTokens {token : Token} {cs : List Char}
    (h : token ∈ (ampersandTokens cs).1) : token.Unmarked := by
  rcases List.mem_append.mp h with hfault | hchars
  · split at hfault
    · rw [List.mem_singleton.mp hfault]
      trivial
    · exact absurd hfault List.not_mem_nil
  · obtain ⟨c, -, rfl⟩ := List.mem_map.mp hchars
    trivial

theorem unmarked_referenceTokens {fuel : Nat} {cs : List Char} {token : Token}
    (h : token ∈ referenceTokens fuel cs) : token.Unmarked := by
  induction fuel generalizing cs with
  | zero => exact unmarked_char h
  | succ fuel ih =>
      cases cs with
      | nil => exact absurd h List.not_mem_nil
      | cons c cs =>
          rw [referenceTokens] at h
          split at h
          · exact (List.mem_append.mp h).elim unmarked_ampersandTokens ih
          · rcases List.mem_cons.mp h with rfl | h
            · trivial
            · exact ih h

theorem unmarked_comment (cs : List Char) : (comment cs).1.Unmarked := by
  unfold comment
  split <;> trivial

theorem unmarked_single {token only : Token} (h : token ∈ [only]) (honly : only.Unmarked) :
    token.Unmarked :=
  List.mem_singleton.mp h ▸ honly

theorem unmarked_afterBracket {foreign : Bool} {cs : List Char} {token : Token}
    (h : token ∈ (afterBracket foreign cs).1) : token.Unmarked := by
  unfold afterBracket at h
  split at h
  · exact unmarked_single h (unmarked_comment _)
  · split at h
    · exact unmarked_single h (unmarked_doctype _)
    · split at h
      · obtain ⟨c, -, rfl⟩ := List.mem_map.mp h
        trivial
      · exact unmarked_single h trivial
  · exact unmarked_single h trivial
  · exact unmarked_char (show _ ∈ charTokens ['<', '/'] from h)
  · exact unmarked_single h trivial
  · split at h
    · split at h
      · exact unmarked_single h trivial
      · exact absurd h List.not_mem_nil
    · exact unmarked_single h trivial
  · exact unmarked_single h trivial

theorem unmarked_nextInMarkup {foreign : Bool} {cs : List Char} {token : Token}
    (h : token ∈ (nextInMarkup foreign cs).1) : token.Unmarked := by
  unfold nextInMarkup at h
  split at h
  · exact unmarked_single h trivial
  · split at h
    · split at h
      · next htag => exact unmarked_single h (unmarked_tag? htag)
      · exact absurd h List.not_mem_nil
    · exact unmarked_afterBracket h
  · exact unmarked_ampersandTokens h
  · exact unmarked_single h trivial

/-- **The names in the tokens of a text are unmarked.** -/
theorem unmarked_next {mode : TextMode} {foreign : Bool} {cs : List Char} {token : Token}
    (h : token ∈ (Token.next mode foreign cs).1) : token.Unmarked := by
  cases mode with
  | markup => exact unmarked_nextInMarkup h
  | references tag => exact unmarked_referenceTokens h
  | raw tag => exact unmarked_char h
  | script => exact unmarked_char h
  | plain => exact unmarked_char h

/-! ## Cells -/

/-- The names in an item are unmarked. -/
def Item.Unmarked : Item → Prop
  | .element _ tag attributes => Html.Unmarked tag ∧ ∀ a ∈ attributes, Html.Unmarked a.name
  | .doctype name => Html.Unmarked name
  | _ => True

theorem of_mem_insert {a b : Attribute} {as : List Attribute} (h : b ∈ Attribute.insert a as) :
    b = a ∨ b ∈ as := by
  induction as with
  | nil => exact .inl (List.mem_singleton.mp h)
  | cons c as ih =>
      rw [Attribute.insert] at h
      split at h
      · exact List.mem_cons.mp h
      · split at h
        · exact .inr h
        · rcases List.mem_cons.mp h with rfl | h
          · exact .inr List.mem_cons_self
          · exact (ih h).imp id (List.mem_cons_of_mem c)

theorem of_mem_addMissing {b : Attribute} {as new : List Attribute}
    (h : b ∈ Attribute.addMissing as new) : b ∈ as ∨ b ∈ new := by
  induction new generalizing as with
  | nil => exact .inl h
  | cons a new ih =>
      rcases ih h with h | h
      · rcases of_mem_insert h with rfl | h
        · exact .inr List.mem_cons_self
        · exact .inl h
      · exact .inr (List.mem_cons_of_mem a h)

namespace Store

/-- The names in the cells of a store are unmarked. -/
def Unmarked (s : Store) : Prop := ∀ i c, s.cell? i = some c → c.item.Unmarked

namespace Unmarked

variable {s : Store}

theorem empty : Store.empty.Unmarked := by
  intro i c hc
  have hpage : c = ⟨.page, none, []⟩ := by
    cases i with
    | zero => exact (Option.some.inj hc).symm
    | succ i => simp [cell?, Store.empty] at hc
  rw [hpage]
  trivial

theorem modify (h : s.Unmarked) (i : Nat) {f : Cell → Cell}
    (hf : ∀ c : Cell, c.item.Unmarked → (f c).item.Unmarked) : (s.modify i f).Unmarked := by
  intro j c hc
  rw [cell?_modify] at hc
  split at hc
  · obtain ⟨d, hd, rfl⟩ := Option.map_eq_some_iff.mp hc
    exact hf d (h i d hd)
  · exact h j c hc

theorem relink (h : s.Unmarked) (i : Nat) {f : Cell → Cell} (hf : ∀ c, (f c).item = c.item) :
    (s.modify i f).Unmarked :=
  h.modify i fun c hc => (hf c).symm ▸ hc

theorem create (h : s.Unmarked) {item : Item} (hitem : item.Unmarked) :
    (s.create item).2.Unmarked := by
  intro j c hc
  rw [cell?_create] at hc
  split at hc
  · rw [← Option.some.inj hc]
    exact hitem
  · exact h j c hc

theorem detach (h : s.Unmarked) (i : Nat) : (s.detach i).Unmarked := by
  unfold Store.detach
  split
  · exact h
  · refine relink (relink h _ ?_) i ?_ <;> exact fun _ => rfl

theorem append (h : s.Unmarked) (p i : Nat) : (s.append p i).Unmarked := by
  unfold Store.append
  refine relink (relink (h.detach i) p ?_) i ?_ <;> exact fun _ => rfl

theorem insertBefore (h : s.Unmarked) (sibling i : Nat) : (s.insertBefore sibling i).Unmarked := by
  unfold Store.insertBefore
  dsimp only
  split
  · exact h.detach i
  · refine relink (relink (h.detach i) _ ?_) i ?_ <;> exact fun _ => rfl

theorem extendText (h : s.Unmarked) (i : Nat) (more : String) :
    (s.extendText i more).Unmarked := by
  unfold Store.extendText
  refine h.modify i fun c hc => ?_
  split
  · trivial
  · exact hc

theorem appendText (h : s.Unmarked) (p : Nat) (text : String) :
    (s.appendText p text).Unmarked := by
  have hnew : (s.create (.text text)).2.Unmarked := h.create trivial
  unfold Store.appendText
  split
  · split
    · exact h.extendText _ _
    · exact hnew.append _ _
  · exact hnew.append _ _

theorem insertTextBefore (h : s.Unmarked) (sibling : Nat) (text : String) :
    (s.insertTextBefore sibling text).Unmarked := by
  have hnew : (s.create (.text text)).2.Unmarked := h.create trivial
  unfold Store.insertTextBefore
  dsimp only
  split
  · split
    · exact h.extendText _ _
    · exact hnew.insertBefore _ _
  · exact hnew.insertBefore _ _

theorem moveChildren (h : s.Unmarked) (source target : Nat) :
    (s.moveChildren source target).Unmarked := by
  rw [Store.moveChildren]
  generalize s.children source = is
  induction is generalizing s with
  | nil => exact h
  | cons i is ih => exact ih (h.append target i)

theorem addAttributes (h : s.Unmarked) (i : Nat) {new : List Attribute}
    (hnew : ∀ a ∈ new, Html.Unmarked a.name) : (s.addAttributes i new).Unmarked := by
  unfold Store.addAttributes
  refine h.modify i fun c hc => ?_
  split
  · next space tag attributes heq =>
    rw [heq] at hc
    refine ⟨hc.1, fun a ha => ?_⟩
    exact (of_mem_addMissing ha).elim (hc.2 a) (hnew a)
  · exact hc

end Unmarked

end Store

/-! ## Unfinished pages -/

/-- The names that a page remembers to open again are unmarked. -/
def Formatting.Unmarked : Formatting → Prop
  | .marker => True
  | .element _ tag => tag.Unmarked

/-- The names in remembered entries are unmarked. -/
def AllUnmarked (entries : List Formatting) : Prop := ∀ f ∈ entries, f.Unmarked

/-- The names in an unfinished page are unmarked. -/
structure Builder.Unmarked (b : Builder) : Prop where
  store : b.store.Unmarked
  formatting : AllUnmarked b.formatting

/-- The names in the page that a step leads to are unmarked. -/
def Outcome.Unmarked : Outcome → Prop
  | .done b => b.Unmarked
  | .again b => b.Unmarked

end Expectation.Html
