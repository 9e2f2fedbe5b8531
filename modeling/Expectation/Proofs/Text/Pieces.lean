import Mathlib.Data.Bool.AllAny
import Mathlib.Data.List.Infix
import Mathlib.Data.List.TakeWhile

/-!
# What does not occur in a text

Braces, backticks and the front of a sentinel must not occur in texts that are
put together from many pieces.  `Lacks` says that a text, the *needle*, occurs
nowhere in another one.  A needle can only come into being where two pieces
meet if it has the first character of the second piece, and pieces begin with
quotation marks, brackets or blanks.

For a needle that is one character twice there is a stronger notion: a text is
`Unpaired` if nothing that follows it can make the pair.

## Main results

* `lacks_append`: joining two texts makes no needle when the second one begins
  with a character that is not in it.
* `lacks_append_of_front`: nor does putting characters in front that are not in
  it.
* `Unpaired.head?_append_ne`: what follows an unpaired text makes no pair.
* `append_inj_of_alphabet`: a piece ends where its alphabet does.
* `Spelled.forall`: what is said of texts is checked on their characters.
-/

namespace Expectation.Text

/-- The needle occurs nowhere in the text. -/
def Lacks (needle cs : List Char) : Prop := ¬ needle <:+: cs

instance (needle cs : List Char) : Decidable (Lacks needle cs) :=
  inferInstanceAs (Decidable (¬ needle <:+: cs))

/-- What a text lacks, its parts lack. -/
theorem Lacks.of_infix {needle cs ds : List Char} (h : Lacks needle cs) (hds : ds <:+: cs) :
    Lacks needle ds :=
  fun hn => h (hn.trans hds)

/-- What a text lacks, it lacks with anything around it. -/
theorem Lacks.of_needle {needle longer cs : List Char} (h : Lacks needle cs)
    (hneedle : needle <:+: longer) : Lacks longer cs :=
  fun hn => h (hneedle.trans hn)

/-- A text without one of the characters of a needle lacks the needle. -/
theorem lacks_of_not_mem {needle cs : List Char} {c : Char} (hc : c ∈ needle)
    (hcs : c ∉ cs) : Lacks needle cs :=
  fun hn => hcs (hn.subset hc)

/-- Joining two texts makes no needle when the second one begins with a
character that is not in it. -/
theorem lacks_append {needle a b : List Char} (ha : Lacks needle a) (hb : Lacks needle b)
    (hhead : ∀ c ∈ b.head?, c ∉ needle) : Lacks needle (a ++ b) := by
  intro hn
  rcases List.infix_append_iff_ne_nil.mp hn with h | h | ⟨x, y, -, hy, hxy, -, hbegin⟩
  · exact ha h
  · exact hb h
  · obtain ⟨t, rfl⟩ := hbegin
    obtain ⟨c, y, rfl⟩ := List.exists_cons_of_ne_nil hy
    have hmem : c ∈ needle := by
      rw [hxy]
      exact List.mem_append_right _ List.mem_cons_self
    exact hhead c rfl hmem

/-- A character that is not in a needle makes none in front of a text. -/
theorem lacks_cons {needle cs : List Char} {c : Char} (hne : needle ≠ []) (hc : c ∉ needle)
    (h : Lacks needle cs) : Lacks needle (c :: cs) := by
  intro hn
  rcases List.infix_cons_iff.mp hn with hbegin | hwithin
  · obtain ⟨a, rest, rfl⟩ := List.exists_cons_of_ne_nil hne
    obtain ⟨rfl, -⟩ := List.cons_prefix_cons.mp hbegin
    exact hc List.mem_cons_self
  · exact h hwithin

/-- Characters that are not in a needle make none in front of a text. -/
theorem lacks_append_of_front {needle a b : List Char} (hne : needle ≠ [])
    (ha : ∀ c ∈ a, c ∉ needle) (hb : Lacks needle b) : Lacks needle (a ++ b) := by
  induction a with
  | nil => exact hb
  | cons c a ih =>
      have htail : Lacks needle (a ++ b) := ih fun d hd => ha d (List.mem_cons_of_mem _ hd)
      exact lacks_cons hne (ha c List.mem_cons_self) htail

/-! ## Texts without a pair -/

/-- The character never stands twice in a row, and not at the end. -/
structure Unpaired (c : Char) (cs : List Char) : Prop where
  lacks : Lacks [c, c] cs
  getLast?_ne : cs.getLast? ≠ some c

theorem unpaired_nil (c : Char) : Unpaired c [] :=
  ⟨fun h => absurd (List.infix_nil.mp h) (by simp), by simp⟩

theorem unpaired_of_not_mem {c : Char} {cs : List Char} (h : c ∉ cs) : Unpaired c cs :=
  ⟨lacks_of_not_mem List.mem_cons_self h, fun hlast => h (List.mem_of_getLast? hlast)⟩

/-- One character in front of others makes no pair with them. -/
theorem unpaired_cons_of_not_mem {c d : Char} {cs : List Char} (h : c ∉ cs) (hne : cs ≠ []) :
    Unpaired c (d :: cs) := by
  obtain ⟨e, cs, rfl⟩ := List.exists_cons_of_ne_nil hne
  refine ⟨fun hn => ?_, fun hlast => ?_⟩
  · rcases List.infix_cons_iff.mp hn with hbegin | hwithin
    · obtain ⟨-, hbegin⟩ := List.cons_prefix_cons.mp hbegin
      exact h (hbegin.subset List.mem_cons_self)
    · exact h (hwithin.subset List.mem_cons_self)
  · rw [List.getLast?_cons_cons] at hlast
    exact h (List.mem_of_getLast? hlast)

theorem Unpaired.tail {c d : Char} {cs : List Char} (h : Unpaired c (d :: cs)) :
    Unpaired c cs := by
  refine ⟨h.lacks.of_infix (List.suffix_cons d cs).isInfix, fun hlast => h.getLast?_ne ?_⟩
  rw [List.getLast?_cons, hlast]
  rfl

/-- Behind the character there is another one, whatever follows the text. -/
theorem Unpaired.head?_append_ne {c : Char} {cs : List Char} (h : Unpaired c (c :: cs))
    (rest : List Char) : (cs ++ rest).head? ≠ some c := by
  cases cs with
  | nil => exact absurd rfl h.getLast?_ne
  | cons d cs =>
      rintro ⟨⟩
      exact h.lacks (List.prefix_append [c, c] cs).isInfix

/-! ## Where a piece ends -/

/-- Two texts of one alphabet, each followed by something else, are the same if they are
so together with what follows. -/
theorem append_inj_of_alphabet {p : Char → Prop} [DecidablePred p] {a b rest rest' : List Char}
    (ha : ∀ c ∈ a, p c) (hb : ∀ c ∈ b, p c) (hrest : ∀ c ∈ rest.head?, ¬ p c)
    (hrest' : ∀ c ∈ rest'.head?, ¬ p c) (h : a ++ rest = b ++ rest') : a = b ∧ rest = rest' := by
  have htake : ∀ {ds after : List Char}, (∀ c ∈ ds, p c) → (∀ c ∈ after.head?, ¬ p c) →
      (ds ++ after).takeWhile p = ds := by
    intro ds after hds hafter
    rw [List.takeWhile_append_of_pos (by simpa using hds)]
    cases after with
    | nil => simp
    | cons c after => simp [hafter c rfl]
  have heq : a = b := by rw [← htake ha hrest, h, htake hb hrest']
  subst heq
  exact ⟨rfl, List.append_cancel_left h⟩

/-! ## Texts of a table -/

/-- The texts, each by its characters. A table is spelled once; its texts are long to take apart
again for each question about them. -/
inductive Spelled : List String → List (List Char) → Prop where
  | nil : Spelled [] []
  | cons {texts : List String} {css : List (List Char)} (cs : List Char) (h : Spelled texts css) :
      Spelled (String.ofList cs :: texts) (cs :: css)

/-- What is said of texts is checked on their characters. -/
theorem Spelled.forall {texts : List String} {css : List (List Char)} {p : List Char → Prop}
    (h : Spelled texts css) (hall : ∀ cs ∈ css, p cs) : ∀ t ∈ texts, p t.toList := by
  induction h with
  | nil => exact fun t ht => absurd ht List.not_mem_nil
  | cons cs h ih =>
      obtain ⟨hcs, hcss⟩ := List.forall_mem_cons.mp hall
      refine List.forall_mem_cons.mpr ⟨?_, ih hcss⟩
      rwa [String.toList_ofList]

/-! ## Texts without an end to trim -/

/-- Nothing is trimmed from a text whose ends are kept. -/
theorem dropWhile_ends_eq_self {p : Char → Bool} {cs : List Char}
    (hhead : ∀ c ∈ cs.head?, p c = false) (hlast : ∀ c ∈ cs.getLast?, p c = false) :
    ((cs.dropWhile p).reverse.dropWhile p).reverse = cs := by
  have hkeep : ∀ ds : List Char, (∀ c ∈ ds.head?, p c = false) → ds.dropWhile p = ds := by
    intro ds hds
    cases ds with
    | nil => rfl
    | cons d ds => rw [List.dropWhile_cons_of_neg (by simp [hds d rfl])]
  rw [hkeep cs hhead, hkeep cs.reverse (by rwa [List.head?_reverse]), List.reverse_reverse]

end Expectation.Text
