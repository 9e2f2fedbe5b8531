import Expectation.Proofs.Json.Decoding
import Expectation.Proofs.Json.Tandem
import Expectation.Proofs.SelfCheck

/-!
# Placeholders that are part of a string

A placeholder among other text in a JSON string or key means nothing, and the string stays what
it is.  But it takes a detour: the placeholder becomes a sentinel, the document is read, and then
the sentinel becomes the placeholder again.  The two documents, with and without sentinels, are
read in step, and what is read differs in the strings only, which are restored one by one.

The detour has its price.  A placeholder is recorded without the blanks around its expression,
and as it stands in the raw text, not as it is decoded; if it holds a quotation mark it is none
of one string only.  Strings can be decoded to the name of the sentinels.  And keys that differ
in the document with sentinels may be the same when they are restored.

## Main results

* `tandem_symbols`: a document and that with sentinels can be read in step.
* `readExpected_of_partial`: a document with partial placeholders is read as it is.
* `readExpected_misread`: a placeholder with an escape in it is changed.
-/

namespace Expectation.Json

open Placeholder
open Text (Lacks utf8)

variable {s : Substitution}

/-! ## Strings -/

/-- A text that is not exactly one placeholder. -/
def PartialText (x : String) : Prop := ∀ e, scan 0 .plain x.toList ≠ [.placeholder e false]

instance : DecidablePred PartialText := fun x =>
  match h : scan 0 .plain x.toList with
  | [.placeholder e false] => isFalse fun hpartial => hpartial e h
  | [] | [.placeholder _ true] | .char _ :: _ | .placeholder _ _ :: _ :: _ =>
    isTrue fun e he => by simp [h] at he

/-- A string of a document and its counterpart in the document with sentinels. -/
def Restores (s : Substitution) (x y : String) : Prop :=
  Lacks "__MATCHER".toList x.toList →
    s.restore y = x ∧ (PartialText x → s.whole? y = none)

theorem infix_written {cs : List Char} {segments : List Segment}
    (h : cs.map .char <:+: segments) : cs <:+: written segments := by
  obtain ⟨a, b, rfl⟩ := h
  refine ⟨written a, written b, ?_⟩
  rw [List.append_assoc, List.append_assoc, written_append, written_chars]

/-- **Decoded strings are restored.** -/
theorem restores_of_decodes {i : Nat} {decoded raw : List Segment} (h : Decodes decoded raw)
    (hcarries : s.Carries i decoded) :
    Restores s (String.ofList (written decoded)) (String.ofList (spell i decoded)) := by
  intro hlacks
  have htext : (String.ofList (written decoded)).toList = written decoded := String.toList_ofList
  rw [htext] at hlacks
  have hhonest : Honest s.expressions.length decoded :=
    honest_of_not_infix _ fun hname => hlacks (infix_written hname)
  refine ⟨Substitution.restore_spell hcarries hhonest, fun hpartial => ?_⟩
  rw [Substitution.whole?, Substitution.tokens_spell hcarries hhonest]
  cases h with
  | nil => rfl
  | char => rfl
  | @placeholder e decoded raw hfound htrim h =>
      cases decoded with
      | nil =>
          refine absurd ?_ (hpartial e)
          obtain ⟨hblank, hclose⟩ := of_inner?_braces (hfound [])
          have hscan := scan_braces (by decide : ScanContext.plain ≠ .escaped) hblank hclose
          rw [htrim] at hscan
          rw [String.toList_ofList]
          exact hscan
      | cons segment decoded =>
          cases segment with
          | char c => rfl
          | placeholder e' quoted => cases quoted <;> rfl

theorem exists_of_symbols_eq_append {cs body : List Char} {rest : Input} {c : Char}
    (h : symbols cs = symbols body ++ .char c :: rest) :
    ∃ behind, cs = body ++ c :: behind ∧ rest = symbols behind := by
  obtain ⟨front, back, rfl, hfront, hback⟩ := List.map_eq_append_iff.mp h
  obtain ⟨d, behind, rfl, hd, rfl⟩ := List.map_eq_cons_iff.mp hback
  obtain rfl := Text.Symbol.char.inj hd
  have hinjective : Function.Injective Text.Symbol.char := fun _ _ => Text.Symbol.char.inj
  obtain rfl := hinjective.list_map hfront
  exact ⟨behind, rfl, rfl⟩

/-! ## Documents -/

/-- A raw text whose placeholders stand for themselves and have the expressions from a place
on. -/
structure Supplied (s : Substitution) (i : Nat) (context : ScanContext) (raw : List Char) :
    Prop where
  le_length : i ≤ s.expressions.length
  prefix_drop : expressionsOf (scan 0 context raw) <+: s.expressions.drop i
  verbatim : ∀ inner quoted, .placeholder inner quoted ∈ parts 0 context raw → Verbatim inner

/-- **A string and its counterpart** in the document with sentinels. -/
theorem exists_counterpart {i : Nat} {x : String} {body behind : List Char}
    (h : Supplied s i .string (body ++ '"' :: behind)) (hbody : SpelledAll x.toList body) :
    ∃ j y, Supplied s j .value behind ∧ Restores s x y ∧
      string (symbols (spell i (scan 0 .string (body ++ '"' :: behind)))) =
        .ok (y, symbols (spell j (scan 0 .value behind))) := by
  obtain ⟨decoded, ps, hps, hdecodes, hwritten⟩ := exists_decodes hbody h.verbatim
  have hsegments : scan 0 .string (body ++ '"' :: behind) =
      ps.map Part.segment ++ .char '"' :: scan 0 .value behind := by
    rw [scan_eq_map_parts, scan_eq_map_parts, hps, List.map_append]
    rfl
  have hprefix := h.prefix_drop
  have hexpressions : expressionsOf (scan 0 .string (body ++ '"' :: behind)) =
      expressionsOf decoded ++ expressionsOf (scan 0 .value behind) := by
    rw [hsegments, hdecodes.expressionsOf_eq]
    exact List.filterMap_append
  rw [hexpressions] at hprefix
  have hcarries : s.Carries i decoded :=
    ⟨h.le_length, (List.prefix_append _ _).trans hprefix, fun e quoted => hdecodes.bare⟩
  refine ⟨i + (expressionsOf decoded).length, String.ofList (spell i decoded), ?_, ?_, ?_⟩
  · refine ⟨hcarries.add_length_le, ?_, fun inner quoted hmem => ?_⟩
    · have hdrop := hprefix.drop (expressionsOf decoded).length
      rwa [List.drop_left, List.drop_drop] at hdrop
    · refine h.verbatim inner quoted ?_
      rw [hps]
      exact List.mem_append_right _ (List.mem_cons_of_mem _ hmem)
  · have hrestores := restores_of_decodes hdecodes hcarries
    rwa [hwritten, String.ofList_toList] at hrestores
  · have hspelled : SpelledAll (String.ofList (spell i decoded)).toList
        (spell i (ps.map Part.segment)) := by
      rw [String.toList_ofList]
      exact hdecodes.spelledAll i
    rw [hsegments, spell_append, ← hdecodes.expressionsOf_eq, spell, symbols_append, symbols_cons]
    exact string_spelledAll hspelled _

/-- **The two documents can be read in step.** -/
theorem tandem_symbols {raw : List Char} {i : Nat} (h : Supplied s i .value raw) :
    Tandem (Restores s) (symbols raw) (symbols (spell i (scan 0 .value raw))) := by
  induction hlength : raw.length using Nat.strongRecOn generalizing raw i with
  | ind n ih =>
      subst hlength
      cases raw with
      | nil => exact .nil
      | cons c raw =>
          by_cases hquote : c = '"'
          · subst hquote
            have hinside : Supplied s i .string raw :=
              ⟨h.le_length, h.prefix_drop, fun inner quoted hmem =>
                h.verbatim inner quoted (List.mem_cons_of_mem _ hmem)⟩
            cases hx : string (symbols raw) with
            | error f => exact .unread hx
            | ok read =>
                obtain ⟨x, rest⟩ := read
                obtain ⟨body, hbody, heq⟩ := string_eq_ok_iff.mp hx
                obtain ⟨behind, rfl, rfl⟩ := exists_of_symbols_eq_append heq
                obtain ⟨j, y, hbehind, hxy, hy⟩ := exists_counterpart hinside hbody
                have hshorter : behind.length < ('"' :: (body ++ '"' :: behind)).length := by
                  rw [List.length_cons, List.length_append, List.length_cons]
                  omega
                exact .string hx hy hxy (ih behind.length hshorter hbehind rfl)
          · cases hinner : inner? (c :: raw) with
            | some inner =>
                obtain ⟨rest, hrest⟩ := eq_of_inner? hinner
                have hscan : scan 0 .value (c :: raw) =
                    .placeholder (Text.trim inner) true :: scan (inner.length + 3) .value raw := by
                  rw [scan, hinner]
                  rfl
                rw [hscan, hrest]
                exact .braces
            | none =>
                have hnext : ScanContext.value.next c = .value := if_neg hquote
                have hscan : scan 0 .value (c :: raw) = .char c :: scan 0 .value raw := by
                  rw [scan, hinner, hnext]
                  rfl
                have hparts : parts 0 .value (c :: raw) = .char c :: parts 0 .value raw := by
                  rw [parts, hinner, hnext]
                  rfl
                have hprefix := h.prefix_drop
                rw [hscan] at hprefix ⊢
                have hrest : Supplied s i .value raw :=
                  ⟨h.le_length, hprefix, fun inner quoted hmem => h.verbatim inner quoted
                    (hparts ▸ List.mem_cons_of_mem _ hmem)⟩
                have hsymbol : Text.Symbol.char c ≠ .char '"' :=
                  fun heq => hquote (Text.Symbol.char.inj heq)
                exact .cons hsymbol (ih raw.length (Nat.lt_succ_self _) hrest rfl)

/-! ## Trees -/

/-- A part of a tree without the name of the sentinels in its text or its keys. -/
def Unnamed : Value → Prop
  | .string x => Lacks "__MATCHER".toList x.toList
  | .object members => ∀ m ∈ members, Lacks "__MATCHER".toList m.1.toList
  | _ => True

instance : DecidablePred Unnamed := fun v =>
  match v with
  | .string x => inferInstanceAs (Decidable (Lacks "__MATCHER".toList x.toList))
  | .object members =>
    inferInstanceAs (Decidable (∀ m ∈ members, Lacks "__MATCHER".toList m.1.toList))
  | .null | .bool _ | .int _ | .nat _ | .float _ | .array _ | .matcher _ => isTrue trivial

/-- A part of a tree that is not exactly one placeholder. -/
def NotWhole : Value → Prop
  | .string x => PartialText x
  | _ => True

instance : DecidablePred NotWhole := fun v =>
  match v with
  | .string x => inferInstanceAs (Decidable (PartialText x))
  | .null | .bool _ | .int _ | .nat _ | .float _ | .array _ | .object _ | .matcher _ =>
    isTrue trivial

/-- An object whose keys stay apart when they are restored. -/
def KeysApart (s : Substitution) : Value → Prop
  | .object members =>
    ∀ m ∈ members, ∀ n ∈ members, s.restore m.1 = s.restore n.1 → m.1 = n.1
  | _ => True

instance (s : Substitution) : DecidablePred (KeysApart s) := fun v =>
  match v with
  | .object members => inferInstanceAs (Decidable
      (∀ m ∈ members, ∀ n ∈ members, s.restore m.1 = s.restore n.1 → m.1 = n.1))
  | .null | .bool _ | .int _ | .nat _ | .float _ | .array _ | .string _ | .matcher _ =>
    isTrue trivial

/-- A tree of a document and its counterpart in the document with sentinels. -/
def Recovers (s : Substitution) (v w : Value) : Prop :=
  v.Everywhere Unnamed → v.Everywhere NotWhole → w.Everywhere (KeysApart s) →
    resolve s w = .ok v

theorem resolveItems_of_recovers {vs ws : List Value} (h : List.Forall₂ (Recovers s) vs ws)
    (hunnamed : ∀ v ∈ vs, v.Everywhere Unnamed) (hpartial : ∀ v ∈ vs, v.Everywhere NotWhole)
    (hapart : ∀ w ∈ ws, w.Everywhere (KeysApart s)) : resolveItems s ws = .ok vs := by
  obtain ⟨hlength, hpairs⟩ := forall₂_iff_getElem?.mp h
  refine resolveItems_eq_ok_iff.mpr
    (forall₂_iff_getElem?.mpr ⟨hlength.symm, fun i w v hw hv => ?_⟩)
  have hmem := List.mem_of_getElem? hv
  exact hpairs i v w hv hw (hunnamed v hmem) (hpartial v hmem)
    (hapart w (List.mem_of_getElem? hw))

/-- The members that resolved members come of. -/
theorem exists_of_resolve_values {ns : List (String × Value)}
    (h : ∀ b ∈ ns, ∃ v, resolve s b.2 = .ok v) :
    ∃ us, resolveMembers s ns = .ok us ∧
      ∀ p, p ∈ us ↔ ∃ b ∈ ns, s.restore b.1 = p.1 ∧ resolve s b.2 = .ok p.2 := by
  induction ns with
  | nil => exact ⟨[], rfl, by simp⟩
  | cons b ns ih =>
      obtain ⟨k, w⟩ := b
      obtain ⟨⟨v, hv⟩, hrest⟩ := List.forall_mem_cons.mp h
      obtain ⟨us, hus, hmem⟩ := ih hrest
      refine ⟨(s.restore k, v) :: us, ?_, fun p => ?_⟩
      · rw [resolveMembers, hv, hus]
        rfl
      · rw [List.mem_cons, hmem, List.exists_mem_cons_iff]
        refine or_congr_left ⟨?_, ?_⟩
        · rintro rfl
          exact ⟨rfl, hv⟩
        · rintro ⟨hkey, hvalue⟩
          rw [hv] at hvalue
          exact Prod.ext hkey.symm (Except.ok.inj hvalue).symm

/-- **Objects are resolved member by member**, if their keys stay apart. -/
theorem recovers_object {ms ns : List (String × Value)}
    (h : List.Forall₂ (fun a b => Restores s a.1 b.1 ∧ Recovers s a.2 b.2) ms ns) :
    Recovers s (.object (ofPairs ms)) (.object (ofPairs ns)) := by
  intro hunnamed hpartial hapart
  obtain ⟨hkeys, hunnamed⟩ := Value.everywhere_object.mp hunnamed
  obtain ⟨-, hpartial⟩ := Value.everywhere_object.mp hpartial
  obtain ⟨hapartKeys, hapart⟩ := Value.everywhere_object.mp hapart
  have hlacks : ∀ a ∈ ms, Lacks "__MATCHER".toList a.1.toList := by
    intro a ha
    obtain ⟨v, hv⟩ := exists_mem_ofPairs ha
    exact hkeys (a.1, v) hv
  have hinjective : ∀ a ∈ ns, ∀ b ∈ ns, s.restore a.1 = s.restore b.1 → a.1 = b.1 := by
    intro a ha b hb
    obtain ⟨v, hv⟩ := exists_mem_ofPairs ha
    obtain ⟨w, hw⟩ := exists_mem_ofPairs hb
    exact hapartKeys (a.1, v) hv (b.1, w) hw
  have hrestored : List.Forall₂ (fun a b => s.restore b.1 = a.1 ∧ Recovers s a.2 b.2) ms ns := by
    refine ((List.forall₂_and_left ms ns).mpr ⟨hlacks, h⟩).imp ?_
    rintro a b ⟨ha, hkey, hvalue⟩
    exact ⟨(hkey ha).1, hvalue⟩
  have hrenamed := renamed_ofPairs hrestored hinjective
  have hresolve : ∀ a ∈ ofPairs ms, ∀ b ∈ ofPairs ns, Recovers s a.2 b.2 →
      resolve s b.2 = .ok a.2 := fun a ha b hb hab =>
    hab (hunnamed a.1 a.2 ha) (hpartial a.1 a.2 ha) (hapart b.1 b.2 hb)
  have hvalues : ∀ b ∈ ofPairs ns, ∃ v, resolve s b.2 = .ok v := by
    intro b hb
    obtain ⟨a, ha, -, hab⟩ := hrenamed.forth b hb
    exact ⟨a.2, hresolve a ha b hb hab⟩
  obtain ⟨us, hus, hmem⟩ := exists_of_resolve_values hvalues
  have hsame : ofPairs us = ofPairs ms := by
    refine ofPairs_eq_of_mem_iff (ascending_ofPairs ms) fun p => ?_
    rw [hmem]
    constructor
    · rintro ⟨b, hb, hkey, hvalue⟩
      obtain ⟨a, ha, hab, hrecovers⟩ := hrenamed.forth b hb
      rw [hresolve a ha b hb hrecovers] at hvalue
      have heq : a = p := Prod.ext (hab.symm.trans hkey) (Except.ok.inj hvalue)
      exact heq ▸ ha
    · intro hp
      obtain ⟨b, hb, hkey, hrecovers⟩ := hrenamed.back p hp
      exact ⟨b, hb, hkey, hresolve p hp b hb hrecovers⟩
  rw [resolve, hus]
  exact congrArg (fun ms => Except.ok (Value.object ms)) hsame

/-- In trees that are read in step the one is recovered from the other. -/
theorem lifts_recovers : Tandem.Lifts (Restores s) (Recovers s) where
  null := fun _ _ _ => rfl
  bool := fun _ _ _ _ => rfl
  number := by
    intro v hv _ _ _
    cases v with
    | int _ | nat _ | float _ => rfl
    | _ => cases hv
  string := by
    intro x y hxy hunnamed hpartial _
    obtain ⟨hrestore, hwhole⟩ := hxy hunnamed.self
    rw [resolve, hwhole hpartial.self, hrestore]
  array := by
    intro vs ws h hunnamed hpartial hapart
    rw [resolve, resolveItems_of_recovers h (Value.everywhere_array.mp hunnamed).2
      (Value.everywhere_array.mp hpartial).2 (Value.everywhere_array.mp hapart).2]
    rfl
  object := recovers_object

/-! ## Documents with partial placeholders -/

/-- **Partial placeholders are literal text.**  A document in which no string is exactly one
placeholder is read as if it were an actual one.  The placeholders have to be such that their
text is kept: no blanks around their expressions, and no quotation mark and no backslash in
them.  And the detour must not be noticed: no string and no key of the document holds the name
of the sentinels, and keys that differ in the document with sentinels differ in the end. -/
theorem readExpected_of_partial {text : String} {v : Value}
    (hv : readActual (utf8 text) = .ok v)
    (hverbatim : ∀ inner quoted, .placeholder inner quoted ∈ parts 0 .value text.toList →
      Verbatim inner)
    (hunnamed : v.Everywhere Unnamed)
    (hapart : ∀ w, readString (Substitution.ofText .value text).text = .ok w →
      w.Everywhere (KeysApart (Substitution.ofText .value text)))
    (hpartial : v.Everywhere NotWhole) :
    readExpected text = .ok ⟨v, Substitution.ofText .value text⟩ := by
  have hsupplied : Supplied (Substitution.ofText .value text) 0 .value text.toList :=
    ⟨Nat.zero_le _, List.prefix_refl _, hverbatim⟩
  have hstring : read (symbols text.toList) = .ok v := readString_of_readActual hv
  obtain ⟨w, hw, hrecovers⟩ := read_of_tandem lifts_recovers (tandem_symbols hsupplied) hstring
  have hread : readString (Substitution.ofText .value text).text = .ok w := by
    rw [readString, Input.ofString, Substitution.ofText, String.toList_ofList]
    exact hw
  unfold readExpected
  dsimp only
  rw [hread]
  dsimp only
  rw [hrecovers hunnamed hpartial (hapart w hread)]
  rfl

/-- A placeholder behind an escape, and one in a key. -/
theorem readExpected_of_partial_key :
    ∃ v,
      readActual (utf8
        "[\"\\u00e9 \x7B\x7Ba\x7D\x7D\", \x7B\"\x7B\x7Bb\x7D\x7D.c\": 1\x7D]") = .ok v ∧
      readExpected "[\"\\u00e9 \x7B\x7Ba\x7D\x7D\", \x7B\"\x7B\x7Bb\x7D\x7D.c\": 1\x7D]" =
        .ok ⟨v, .ofText .value
          "[\"\\u00e9 \x7B\x7Ba\x7D\x7D\", \x7B\"\x7B\x7Bb\x7D\x7D.c\": 1\x7D]"⟩ := by
  obtain ⟨v, hv, hunnamed, hpartial⟩ : ∃ v,
      readActual (utf8
        "[\"\\u00e9 \x7B\x7Ba\x7D\x7D\", \x7B\"\x7B\x7Bb\x7D\x7D.c\": 1\x7D]") = .ok v ∧
        v.Everywhere Unnamed ∧ v.Everywhere NotWhole :=
    exists_ok_of_any (by decide +kernel)
  obtain ⟨w, hw, hapart⟩ : ∃ w, readString (Substitution.ofText .value
      "[\"\\u00e9 \x7B\x7Ba\x7D\x7D\", \x7B\"\x7B\x7Bb\x7D\x7D.c\": 1\x7D]").text = .ok w ∧
        w.Everywhere (KeysApart (.ofText .value
          "[\"\\u00e9 \x7B\x7Ba\x7D\x7D\", \x7B\"\x7B\x7Bb\x7D\x7D.c\": 1\x7D]")) :=
    exists_ok_of_any (by decide +kernel)
  refine ⟨v, hv, readExpected_of_partial hv ?_ hunnamed ?_ hpartial⟩
  · have hall : (parts 0 .value
        "[\"\\u00e9 \x7B\x7Ba\x7D\x7D\", \x7B\"\x7B\x7Bb\x7D\x7D.c\": 1\x7D]".toList).all (fun
          | .placeholder inner _ => decide (Verbatim inner)
          | .char _ => true) = true := by
      decide +kernel
    exact fun inner quoted hmem => of_decide_eq_true (List.all_eq_true.mp hall _ hmem)
  · intro u hu
    rw [hw] at hu
    exact Except.ok.inj hu ▸ hapart

/-- **A placeholder with an escape in it is changed**: it is restored as it stands in the raw
text. -/
theorem readExpected_misread :
    ¬ ∀ text v, Lacks "__MATCHER".toList text.toList → readActual (utf8 text) = .ok v →
      v.Everywhere NotWhole → ∃ d, readExpected text = .ok d ∧ d.root = v := by
  intro hliteral
  have hlacks : Lacks "__MATCHER".toList
      "\x7B\"g\": \"a \x7B\x7BoneOf \\\"x\\\"\x7D\x7D\"\x7D".toList := by
    decide +kernel
  obtain ⟨v, hv, hpartial, hdecoded⟩ : ∃ v,
      readActual (utf8 "\x7B\"g\": \"a \x7B\x7BoneOf \\\"x\\\"\x7D\x7D\"\x7D") = .ok v ∧
        v.Everywhere NotWhole ∧
        v.Everywhere (fun w => w.string?.all fun x => !x.toList.contains '\\') :=
    exists_ok_of_any (by decide +kernel)
  obtain ⟨d, hd, hraw⟩ : ∃ d,
      readExpected "\x7B\"g\": \"a \x7B\x7BoneOf \\\"x\\\"\x7D\x7D\"\x7D" = .ok d ∧
        ¬ d.root.Everywhere (fun w => w.string?.all fun x => !x.toList.contains '\\') :=
    exists_ok_of_any (by decide +kernel)
  obtain ⟨d', hd', hroot⟩ := hliteral _ v hlacks hv hpartial
  rw [hd] at hd'
  obtain rfl := Except.ok.inj hd'
  exact hraw (hroot ▸ hdecoded)

end Expectation.Json
