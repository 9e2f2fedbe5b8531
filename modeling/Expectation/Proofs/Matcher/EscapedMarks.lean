import Expectation.Proofs.Matcher.Rereading
import Mathlib.Data.List.Induction

/-!
# Lists of values inside quoted strings

Inside a quoted string an expression is written with its quotation marks
escaped.  When the first mark is escaped, all of them are taken for plain ones,
and the values are read from what results.  Nothing else is undone: an escape
that a value needs is escaped once more inside the string, and is read as what
it is made of.

A run of backslashes in front of a quotation mark loses up to three of them, and
every other run is kept.  So a value comes out right if nothing in it needs an
escape, and also if it has one backslash at its end, where four are written and
the closing mark takes two of them.

## Main results

* `plainMarks_run`: what becomes of backslashes in front of a mark.
* `plainMarks_value`: what becomes of a value that is escaped twice.
* `escaped_list_iff`: the lists that mean the same inside a quoted string.
* `escaped_list_quote`: a list that does not.
-/

namespace Expectation.Matcher

open Json (escapeChars)

/-! ## Replacing every occurrence -/

/-- The mark that is looked for: a quotation mark behind backslashes. -/
def mark (k : Nat) : List Char := List.replicate k '\\' ++ ['"']

/-- Among backslashes in front of a quotation mark, a mark begins at its own
distance only. -/
theorem mark_prefix_iff (k n : Nat) (rest : List Char) :
    mark k <+: List.replicate n '\\' ++ '"' :: rest ↔ k = n := by
  induction k generalizing n with
  | zero => cases n <;> simp [mark, List.replicate_succ]
  | succ k ih =>
      cases n with
      | zero => simp [mark, List.replicate_succ]
      | succ n =>
          have htail := ih n
          rw [mark] at htail ⊢
          rw [List.replicate_succ, List.replicate_succ, List.cons_append, List.cons_append,
            List.cons_prefix_cons, htail]
          simp

/-- No mark begins in a text without quotation marks that ends in no backslash,
whatever follows. -/
theorem not_begins_mark {k : Nat} {cs : List Char} (hne : cs ≠ []) (hquote : '"' ∉ cs)
    (hlast : cs.getLast? ≠ some '\\') (rest : List Char) : ¬ mark k <+: cs ++ rest := by
  induction cs generalizing k with
  | nil => exact absurd rfl hne
  | cons c cs ih =>
      intro hbegin
      cases k with
      | zero =>
          obtain ⟨heq, -⟩ := List.cons_prefix_cons.mp hbegin
          exact hquote (heq ▸ List.mem_cons_self)
      | succ k =>
          rw [mark, List.replicate_succ] at hbegin
          obtain ⟨rfl, htail⟩ := List.cons_prefix_cons.mp hbegin
          cases cs with
          | nil => exact hlast rfl
          | cons d cs =>
              refine ih (List.cons_ne_nil d cs) (fun hmem => ?_) ?_ htail
              · exact hquote (List.mem_cons_of_mem _ hmem)
              · rwa [List.getLast?_cons_cons] at hlast

section Replacing

variable {old new : List Char}

/-- The characters of an occurrence are passed over. -/
theorem replaceAll_drop (n : Nat) (cs : List Char) :
    replaceAll old new n cs = replaceAll old new 0 (cs.drop n) := by
  induction cs generalizing n with
  | nil => cases n <;> rfl
  | cons c cs ih =>
      cases n with
      | zero => rfl
      | succ n => exact ih n

theorem replaceAll_kept {c : Char} {cs : List Char} (h : ¬ old <+: c :: cs) :
    replaceAll old new 0 (c :: cs) = c :: replaceAll old new 0 cs := by
  rw [replaceAll, if_neg fun hbegin => h (List.isPrefixOf_iff_prefix.mp hbegin)]

theorem replaceAll_self (hne : old ≠ []) (rest : List Char) :
    replaceAll old new 0 (old ++ rest) = new ++ replaceAll old new 0 rest := by
  obtain ⟨c, cs, rfl⟩ := List.exists_cons_of_ne_nil hne
  have hbegin : (c :: cs).isPrefixOf (c :: (cs ++ rest)) = true :=
    List.isPrefixOf_iff_prefix.mpr (List.prefix_append (c :: cs) rest)
  have hlength : (c :: cs).length - 1 = cs.length := rfl
  rw [List.cons_append, replaceAll, if_pos hbegin, hlength, replaceAll_drop, List.drop_left]

end Replacing

/-- Text in which no mark begins is kept. -/
theorem replaceAll_append {k : Nat} {cs : List Char} (new : List Char) (hquote : '"' ∉ cs)
    (hlast : cs.getLast? ≠ some '\\') (rest : List Char) :
    replaceAll (mark k) new 0 (cs ++ rest) = cs ++ replaceAll (mark k) new 0 rest := by
  induction cs with
  | nil => rfl
  | cons c cs ih =>
      have hbegin := not_begins_mark (k := k) (List.cons_ne_nil c cs) hquote hlast rest
      have htail : cs.getLast? ≠ some '\\' := by
        intro heq
        apply hlast
        rw [List.getLast?_cons, heq]
        rfl
      rw [List.cons_append] at hbegin ⊢
      rw [replaceAll_kept hbegin, ih (fun hmem => hquote (List.mem_cons_of_mem c hmem))
        htail]
      rfl

/-- Backslashes in front of a quotation mark lose those of one mark, if there are
enough of them. -/
theorem replaceAll_run {k : Nat} (hk : k ≠ 0) (n : Nat) (rest : List Char) :
    replaceAll (mark k) ['"'] 0 (List.replicate n '\\' ++ '"' :: rest) =
      List.replicate (if k ≤ n then n - k else n) '\\' ++
        '"' :: replaceAll (mark k) ['"'] 0 rest := by
  induction n with
  | zero =>
      have hbegin : ¬ mark k <+: '"' :: rest := fun h => hk ((mark_prefix_iff k 0 rest).mp h)
      have hcount : (if k ≤ 0 then 0 - k else 0) = 0 := by
        split <;> omega
      rw [List.replicate_zero, List.nil_append, replaceAll_kept hbegin, hcount]
      rfl
  | succ n ih =>
      by_cases heq : k = n + 1
      · subst heq
        have hself : List.replicate (n + 1) '\\' ++ '"' :: rest = mark (n + 1) ++ rest := by
          rw [mark, List.append_assoc, List.singleton_append]
        have hne : mark (n + 1) ≠ [] := by simp [mark]
        rw [hself, replaceAll_self hne, if_pos (Nat.le_refl _), Nat.sub_self]
        rfl
      · have hbegin : ¬ mark k <+: '\\' :: (List.replicate n '\\' ++ '"' :: rest) :=
          fun h => heq ((mark_prefix_iff k (n + 1) rest).mp h)
        have hcount : (if k ≤ n + 1 then n + 1 - k else n + 1) =
            (if k ≤ n then n - k else n) + 1 := by
          split <;> split <;> omega
        rw [List.replicate_succ, List.cons_append, replaceAll_kept hbegin, ih, hcount]
        rfl

/-! ## Escaped marks -/

/-- A text with its escaped marks taken for plain ones. -/
def plainMarks (cs : List Char) : List Char :=
  replaceAll (mark 1) ['"'] 0 (replaceAll (mark 2) ['"'] 0 cs)

/-- The arguments behind an escaped mark. -/
theorem arguments_of_escaped {cs : List Char} (htrim : trimGaps cs = cs)
    (h : ['\\', '"'].isPrefixOf cs = true) :
    arguments cs = quotedValues ((plainMarks cs).length + 1) (plainMarks cs) := by
  simp only [arguments, htrim, h, if_true]
  rfl

/-- Text without quotation marks that ends in no backslash is kept. -/
theorem plainMarks_append {cs : List Char} (hquote : '"' ∉ cs)
    (hlast : cs.getLast? ≠ some '\\') (rest : List Char) :
    plainMarks (cs ++ rest) = cs ++ plainMarks rest := by
  rw [plainMarks, replaceAll_append _ hquote hlast, replaceAll_append _ hquote hlast]
  rfl

/-- **Backslashes in front of a quotation mark** lose three, or as many as there are. -/
theorem plainMarks_run (n : Nat) (rest : List Char) :
    plainMarks (List.replicate n '\\' ++ '"' :: rest) =
      List.replicate (n - 3) '\\' ++ '"' :: plainMarks rest := by
  rw [plainMarks, replaceAll_run (by decide), replaceAll_run (by decide), plainMarks]
  congr 2
  split <;> split <;> omega

/-- **A value that is escaped twice** loses its second escapes only where backslashes stand in
front of a mark. -/
theorem plainMarks_value {cs : List Char} (hquote : '"' ∉ cs)
    (hlast : cs.getLast? ≠ some '\\') (n : Nat) (rest : List Char) :
    plainMarks (escapeChars (escapeChars cs) ++ (List.replicate n '\\' ++ '"' :: rest)) =
      escapeChars (escapeChars cs) ++
        (List.replicate (n - 3) '\\' ++ '"' :: plainMarks rest) := by
  have hquote' : '"' ∉ escapeChars (escapeChars cs) :=
    Json.quote_not_mem_escapeChars (Json.quote_not_mem_escapeChars hquote)
  have hlast' : (escapeChars (escapeChars cs)).getLast? ≠ some '\\' :=
    Json.getLast?_escapeChars_ne (Json.getLast?_escapeChars_ne hlast)
  rw [plainMarks_append hquote' hlast', plainMarks_run]

/-! ## Values that survive -/

/-- A value in which nothing needs an escape, apart from one backslash at its
end. -/
def Survives (cs : List Char) : Prop :=
  (∀ c ∈ cs.dropLast, c ≠ '"' ∧ c ≠ '\\' ∧ 0x20 ≤ c.toNat) ∧
    ∀ c ∈ cs.getLast?, c ≠ '"' ∧ 0x20 ≤ c.toNat

instance (cs : List Char) : Decidable (Survives cs) :=
  decidable_of_iff
    (cs.dropLast.all (fun c => c ≠ '"' ∧ c ≠ '\\' ∧ 0x20 ≤ c.toNat) = true ∧
      cs.getLast?.all (fun c => c ≠ '"' ∧ 0x20 ≤ c.toNat) = true)
    (and_congr List.all_iff_forall_prop (by cases cs.getLast? <;> simp))

theorem Survives.not_mem {cs : List Char} (h : Survives cs) : '"' ∉ cs := by
  rcases List.eq_nil_or_concat' cs with rfl | ⟨front, c, rfl⟩
  · simp
  · obtain ⟨hfront, hlast⟩ := h
    rw [List.dropLast_concat] at hfront
    rw [List.getLast?_concat] at hlast
    intro hmem
    rcases List.mem_append.mp hmem with hmem | hmem
    · exact (hfront _ hmem).1 rfl
    · exact (hlast c rfl).1 (List.mem_singleton.mp hmem).symm

/-- In front of a backslash at the end nothing may need an escape. -/
theorem survives_concat (cs : List Char) :
    Survives (cs ++ ['\\']) ↔ ∀ c ∈ cs, c ≠ '"' ∧ c ≠ '\\' ∧ 0x20 ≤ c.toNat := by
  rw [Survives, List.dropLast_concat, List.getLast?_concat]
  constructor
  · exact fun h => h.1
  · intro h
    refine ⟨h, ?_⟩
    rintro c ⟨⟩
    decide

/-- Without a backslash at the end nothing may need an escape at all. -/
theorem survives_iff_of_last {cs : List Char} (hlast : cs.getLast? ≠ some '\\') :
    Survives cs ↔ ∀ c ∈ cs, c ≠ '"' ∧ c ≠ '\\' ∧ 0x20 ≤ c.toNat := by
  rcases List.eq_nil_or_concat' cs with rfl | ⟨front, c, rfl⟩
  · simp [Survives]
  · rw [List.getLast?_concat] at hlast
    have hback : c ≠ '\\' := fun heq => hlast (congrArg some heq)
    rw [Survives, List.dropLast_concat, List.getLast?_concat]
    constructor
    · rintro ⟨hfront, hend⟩ d hd
      rcases List.mem_append.mp hd with hd | hd
      · exact hfront d hd
      · rw [List.mem_singleton.mp hd]
        exact ⟨(hend c rfl).1, hback, (hend c rfl).2⟩
    · intro h
      refine ⟨fun d hd => h d (List.mem_append_left _ hd), ?_⟩
      rintro d ⟨⟩
      have hd := h c (List.mem_append_right _ List.mem_cons_self)
      exact ⟨hd.1, hd.2.2⟩

/-- Every text ends in a run of backslashes, which may be empty. -/
theorem exists_backslashes (cs : List Char) :
    ∃ front t, cs = front ++ List.replicate t '\\' ∧ front.getLast? ≠ some '\\' := by
  induction cs using List.reverseRecOn with
  | nil => exact ⟨[], 0, rfl, by simp⟩
  | append_singleton cs c ih =>
      by_cases hc : c = '\\'
      · subst hc
        obtain ⟨front, t, rfl, hlast⟩ := ih
        refine ⟨front, t + 1, ?_, hlast⟩
        rw [List.append_assoc, List.replicate_succ']
      · refine ⟨cs ++ [c], 0, by simp, ?_⟩
        rw [List.getLast?_concat]
        intro heq
        exact hc (Option.some.inj heq)

/-- **What survives** comes out as it was: the escapes of what stands before the last
backslashes are kept, and of those at most one may be there. -/
theorem escaped_eq_iff {front : List Char} (t : Nat) (hlast : front.getLast? ≠ some '\\') :
    escapeChars front ++ List.replicate (2 * t - 1) '\\' = front ++ List.replicate t '\\' ↔
      Survives (front ++ List.replicate t '\\') := by
  match t with
  | 0 =>
      show escapeChars front ++ [] = front ++ [] ↔ Survives (front ++ [])
      rw [List.append_nil, List.append_nil, Json.escapeChars_eq_self_iff,
        survives_iff_of_last hlast]
  | 1 =>
      show escapeChars front ++ ['\\'] = front ++ ['\\'] ↔ Survives (front ++ ['\\'])
      rw [List.append_left_inj, Json.escapeChars_eq_self_iff, survives_concat]
  | t + 2 =>
      have hsplit : front ++ List.replicate (t + 2) '\\' =
          front ++ List.replicate (t + 1) '\\' ++ ['\\'] := by
        rw [List.replicate_succ', List.append_assoc]
      constructor
      · -- Two backslashes or more come out as more than they were.
        intro heq
        have hlength := Json.length_le_length_escapeChars front
        have hsame := congrArg List.length heq
        simp only [List.length_append, List.length_replicate] at hsame
        omega
      · intro h
        rw [hsplit, survives_concat] at h
        have hmem : '\\' ∈ front ++ List.replicate (t + 1) '\\' :=
          List.mem_append_right _ (by simp)
        exact absurd rfl (h _ hmem).2.1

/-! ## Lists inside a string -/

/-- What stands behind the closing mark of a value: the values that follow, behind a
space. -/
def behind : List String → List Char
  | [] => []
  | v :: vs => ' ' :: escapeChars (quotes (v :: vs))

theorem escapeChars_quotes_cons (v : String) (vs : List String) :
    escapeChars (quotes (v :: vs)) =
      '\\' :: '"' :: (escapeChars (escapeChars v.toList) ++ '\\' :: '"' :: behind vs) := by
  have hopen : ∀ cs, escapeChars ('"' :: cs) = '\\' :: '"' :: escapeChars cs := fun _ => rfl
  cases vs with
  | nil =>
      rw [quotes_singleton, Json.toList_quote, List.cons_append, hopen, Json.escapeChars_append]
      rfl
  | cons w vs =>
      rw [quotes_cons_cons, Json.toList_quote, List.cons_append, List.cons_append, hopen,
        List.append_assoc, Json.escapeChars_append]
      rfl

/-- **The value in front is closed** by its first mark.  Behind it the escaped marks are
taken for plain ones as well. -/
theorem plainMarks_front {cs : List Char} (hquote : '"' ∉ cs) (hlast : cs.getLast? ≠ some '\\')
    {n m : Nat} (hn : n - 3 = 2 * m) (rest : List Char) :
    plainMarks ('\\' :: '"' ::
        (escapeChars (escapeChars cs) ++ (List.replicate n '\\' ++ '"' :: rest))) =
      '"' :: (escapeChars (escapeChars cs ++ List.replicate m '\\') ++
        '"' :: plainMarks rest) := by
  rw [Json.escapeChars_append, Json.escapeChars_replicate, List.append_assoc, ← hn,
    ← plainMarks_value hquote hlast]
  exact plainMarks_run 1 _

/-- Backslashes at the end of a value come to stand in front of its closing mark, four for
each. -/
theorem escapeChars_backslashes (front : List Char) (t n : Nat) (rest : List Char) :
    escapeChars (escapeChars (front ++ List.replicate t '\\')) ++
        (List.replicate n '\\' ++ '"' :: rest) =
      escapeChars (escapeChars front) ++ (List.replicate (4 * t + n) '\\' ++ '"' :: rest) := by
  have hcount : 2 * (2 * t) = 4 * t := by omega
  rw [Json.escapeChars_append, Json.escapeChars_append, Json.escapeChars_replicate,
    Json.escapeChars_replicate, hcount, List.append_assoc, List.replicate_add, List.append_assoc]

/-- A value without quotation marks is read up to its own closing mark. -/
theorem plainMarks_quotes_unmarked {v : String} (hquote : '"' ∉ v.toList) (vs : List String) :
    ∃ w, (w = v.toList ↔ Survives v.toList) ∧
      plainMarks (escapeChars (quotes (v :: vs))) =
        '"' :: (escapeChars w ++ '"' :: plainMarks (behind vs)) := by
  obtain ⟨front, t, hv, hlast⟩ := exists_backslashes v.toList
  have hfront : '"' ∉ front := by
    intro hmem
    rw [hv] at hquote
    exact hquote (List.mem_append_left _ hmem)
  -- The closing mark is escaped once, and the backslashes in front of it twice.
  have hcount : 4 * t + 1 - 3 = 2 * (2 * t - 1) := by omega
  have hrun := escapeChars_backslashes front t 1 (behind vs)
  refine ⟨escapeChars front ++ List.replicate (2 * t - 1) '\\', ?_, ?_⟩
  · rw [hv]
    exact escaped_eq_iff t hlast
  · rw [escapeChars_quotes_cons, hv, ← plainMarks_front hfront hlast hcount, ← hrun]
    rfl

/-- **A value with a quotation mark is cut off** there. -/
theorem plainMarks_quotes_marked {v : String} (hquote : '"' ∈ v.toList) (vs : List String) :
    ∃ w rest, '"' ∉ w ∧
      plainMarks (escapeChars (quotes (v :: vs))) = '"' :: (escapeChars w ++ '"' :: rest) := by
  obtain ⟨before, after, hv, hbefore⟩ := List.eq_append_cons_of_mem hquote
  obtain ⟨front, t, rfl, hlast⟩ := exists_backslashes before
  have hfront : '"' ∉ front := fun hmem => hbefore (List.mem_append_left _ hmem)
  -- This mark is escaped twice, and its own escapes are what is taken away.
  have hcount : 4 * t + 3 - 3 = 2 * (2 * t) := by omega
  have hmark : escapeChars (escapeChars ('"' :: after)) =
      List.replicate 3 '\\' ++ '"' :: escapeChars (escapeChars after) := rfl
  refine ⟨escapeChars front ++ List.replicate (2 * t) '\\',
    plainMarks (escapeChars (escapeChars after) ++ '\\' :: '"' :: behind vs), ?_, ?_⟩
  · intro hmem
    rcases List.mem_append.mp hmem with hmem | hmem
    · exact Json.quote_not_mem_escapeChars hfront hmem
    · exact absurd (List.eq_of_mem_replicate hmem) (by decide)
  · rw [escapeChars_quotes_cons, hv, Json.escapeChars_append, Json.escapeChars_append, hmark,
      List.append_assoc, List.append_assoc, List.cons_append, escapeChars_backslashes,
      plainMarks_front hfront hlast hcount]

/-- **The value in front** is read as itself exactly if it survives, and then the others are
left. -/
theorem plainMarks_quotes (v : String) (vs : List String) :
    ∃ w rest,
      plainMarks (escapeChars (quotes (v :: vs))) = '"' :: (escapeChars w ++ '"' :: rest) ∧
        (w = v.toList ↔ Survives v.toList) ∧ (w = v.toList → rest = plainMarks (behind vs)) := by
  by_cases hquote : '"' ∈ v.toList
  · obtain ⟨w, rest, hw, htext⟩ := plainMarks_quotes_marked hquote vs
    have hne : w ≠ v.toList := fun heq => hw (heq ▸ hquote)
    exact ⟨w, rest, htext, iff_of_false hne fun h => h.not_mem hquote,
      fun heq => absurd heq hne⟩
  · obtain ⟨w, hw, htext⟩ := plainMarks_quotes_unmarked hquote vs
    exact ⟨w, _, htext, hw, fun _ => rfl⟩

/-- Behind a closing mark the next value is come to. -/
theorem skipGap_plainMarks_behind (vs : List String) :
    skipGap (plainMarks (behind vs)) = plainMarks (escapeChars (quotes vs)) := by
  cases vs with
  | nil => rfl
  | cons v vs =>
      have hquote : '"' ∉ [' '] := by decide
      have hspace : plainMarks (behind (v :: vs)) =
          ' ' :: plainMarks (escapeChars (quotes (v :: vs))) :=
        plainMarks_append hquote (by decide) _
      have hmark : ∃ cs, plainMarks (escapeChars (quotes (v :: vs))) = '"' :: cs := by
        rw [escapeChars_quotes_cons]
        exact ⟨_, plainMarks_run 1 _⟩
      obtain ⟨cs, hcs⟩ := hmark
      rw [hspace, hcs]
      rfl

/-- **The values that are read** are those that were written exactly if every one survives. -/
theorem quotedValues_escaped_iff {values : List String} {fuel : Nat}
    (hfuel : (plainMarks (escapeChars (quotes values))).length < fuel) :
    quotedValues fuel (plainMarks (escapeChars (quotes values))) = values.map String.toList ↔
      ∀ v ∈ values, Survives v.toList := by
  induction values generalizing fuel with
  | nil =>
      obtain ⟨fuel, rfl⟩ := Nat.exists_eq_add_of_lt hfuel
      exact ⟨fun _ => by simp, fun _ => rfl⟩
  | cons v vs ih =>
      obtain ⟨fuel, rfl⟩ : ∃ n, fuel = n + 1 := ⟨fuel - 1, by omega⟩
      obtain ⟨w, rest, htext, hw, hrest⟩ := plainMarks_quotes v vs
      rw [htext, List.length_cons, List.length_append, List.length_cons] at hfuel
      rw [htext, quotedValues_cons (Json.spelledAll_escapeChars w), List.map_cons,
        List.cons.injEq, List.forall_mem_cons, ← hw]
      refine and_congr_right fun heq => ?_
      have hshorter : (skipGap rest).length ≤ rest.length :=
        (List.dropWhile_sublist isGap).length_le
      have hnext : skipGap rest = plainMarks (escapeChars (quotes vs)) := by
        rw [hrest heq, skipGap_plainMarks_behind]
      rw [hnext] at hshorter ⊢
      apply ih
      omega

/-- The arguments of the escaped expression, of which there is at least one. -/
theorem arguments_escaped {values : List String} (hne : values ≠ []) :
    arguments (trimGaps (escapeChars (quotes values))) ≠ [] ∧
      (arguments (trimGaps (escapeChars (quotes values))) = values.map String.toList ↔
        ∀ v ∈ values, Survives v.toList) := by
  obtain ⟨inner, hmarks⟩ := quotes_eq_marks hne
  have htrim : trimGaps (escapeChars (quotes values)) = escapeChars (quotes values) := by
    rw [hmarks, Json.escapeChars_append]
    apply trimGaps_eq_self
    · rintro c ⟨⟩
      rfl
    · rw [List.getLast?_append]
      rintro c ⟨⟩
      rfl
  obtain ⟨v, vs, rfl⟩ := List.exists_cons_of_ne_nil hne
  have hopen : ['\\', '"'].isPrefixOf (escapeChars (quotes (v :: vs))) = true := by
    rw [escapeChars_quotes_cons]
    rfl
  rw [htrim, arguments_of_escaped htrim hopen]
  refine ⟨?_, quotedValues_escaped_iff (Nat.lt_succ_self _)⟩
  obtain ⟨w, rest, htext, -⟩ := plainMarks_quotes v vs
  rw [htext, quotedValues_cons (Json.spelledAll_escapeChars w)]
  exact List.cons_ne_nil _ _

/-- **The lists that mean the same inside a quoted string.**  The expression of a list denotes a
list there too, and it is the same list exactly if nothing in its values needs an escape, apart
from one backslash at the end of a value. -/
theorem escaped_list_iff {values : List String} (hne : values ≠ []) :
    ∃ read, ofExpression (String.ofList (escapeChars (Matcher.oneOf values).expression.toList)) =
        .ok (.oneOf read) ∧
      (read = values ↔ ∀ v ∈ values, Survives v.toList) := by
  obtain ⟨hsome, hiff⟩ := arguments_escaped hne
  have htext : (String.ofList (escapeChars (Matcher.oneOf values).expression.toList)).toList =
      "oneOf".toList ++ ' ' :: escapeChars (quotes values) := by
    rw [String.toList_ofList, toList_expression_oneOf, Json.escapeChars_append]
    rfl
  have hlast : ∃ c ∈ (escapeChars (quotes values)).getLast?, Text.isBlank c = false := by
    obtain ⟨inner, hmarks⟩ := quotes_eq_marks hne
    rw [hmarks, Json.escapeChars_append, List.getLast?_append]
    exact ⟨'"', rfl, by decide⟩
  have hlist (cs : List (List Char)) : (cs.map String.ofList).map String.toList = cs := by
    rw [List.map_map]
    exact List.map_id'' (fun w => String.toList_ofList) cs
  refine ⟨(arguments (trimGaps (escapeChars (quotes values)))).map String.ofList, ?_, ?_⟩
  · rw [ofExpression_oneOf htext hlast]
    apply readValues_of_arguments
    · exact fun hnil => hsome (List.map_eq_nil_iff.mp hnil)
    · exact (hlist _).symm
  · rw [← hiff]
    constructor
    · intro heq
      rw [← hlist (arguments (trimGaps (escapeChars (quotes values)))), heq]
    · intro heq
      rw [heq, List.map_map]
      exact List.map_id'' (fun w => String.ofList_toList) values

/-- A plain value, and one with a backslash at its end. -/
theorem escaped_list_backslash :
    ["a", "b\\"] ≠ [] ∧ (∀ v ∈ ["a", "b\\"], Survives v.toList) ∧
      ofExpression (String.ofList
        (escapeChars (Matcher.oneOf ["a", "b\\"]).expression.toList)) =
          .ok (.oneOf ["a", "b\\"]) := by
  have hne : ["a", "b\\"] ≠ [] := List.cons_ne_nil _ _
  have hall : ∀ v ∈ ["a", "b\\"], Survives v.toList := List.all_iff_forall_prop.mp (by decide)
  obtain ⟨read, hread, hiff⟩ := escaped_list_iff hne
  have hsame : read = ["a", "b\\"] := hiff.mpr hall
  rw [hsame] at hread
  exact ⟨hne, hall, hread⟩

/-- **A quotation mark cuts a value off**, and a line break comes out as its escape. -/
theorem escaped_list_quote :
    ofExpression (String.ofList (escapeChars (Matcher.oneOf ["a\"b"]).expression.toList)) =
        .ok (.oneOf ["a"]) ∧
      ofExpression (String.ofList (escapeChars (Matcher.oneOf ["a\nb"]).expression.toList)) =
        .ok (.oneOf ["a\\nb"]) := by
  constructor <;> rfl

end Expectation.Matcher
