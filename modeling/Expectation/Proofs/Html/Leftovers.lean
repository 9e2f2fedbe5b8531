import Expectation.Html.Expected
import Expectation.Proofs.Html.NameModes
import Expectation.Proofs.Json.Numerals
import Expectation.Proofs.Placeholder.Hiding

/-!
# What is left of the sentinels in an expected page

The placeholders of an expected page are replaced before the page is read, so their
sentinels may come to stand anywhere in it.  In a text or an attribute value they are
looked for again, and what is found becomes a matcher, a part of a template, or the
placeholder as it was written.  Nowhere else are they looked for.  A comment is taken
as it stands, with the sentinels in it.  In the name of a tag, an attribute or a
declaration a sentinel is turned into small letters, so that it is no sentinel any
more.  And what a page passes over, it passes over with the sentinels in it: an
attribute of a name that the tag already has, all attributes of an end tag, and what
stands behind the name of a declaration.

A page can also glue texts together that were apart, and decode them.  That may put in
front of a sentinel what the search needs to overlook it, although the page was written
without the name of the sentinels.

## Main results

* `resolves_of_resolve`: what becomes of a text or an attribute value.
* `follows_readExpected`: what becomes of each part of a page.
* `exists_leftover_of_readExpected`: sentinels that stay.
-/

namespace Expectation

namespace Placeholder

/-! ## Texts in which nothing is found -/

theorem tokenize_eq_of_not_mem {count keep : Nat} {cs : List Char}
    (h : ∀ i, .mark i ∉ tokenize count 0 keep cs) :
    tokenize count 0 keep cs = cs.map .char := by
  induction cs generalizing keep with
  | nil => exact tokenize_nil count 0 keep
  | cons c cs ih =>
      obtain ⟨i, passed, hfound⟩ | ⟨next, hpassed⟩ := tokenize_cons count keep c cs
      · rw [hfound] at h
        exact absurd List.mem_cons_self (h i)
      · rw [hpassed] at h ⊢
        exact congrArg (_ :: ·) (ih fun i hi => h i (List.mem_cons_of_mem _ hi))

theorem mem_pieces {i : Nat} {ts : List Token} (h : .mark i ∈ ts) : .mark i ∈ pieces ts := by
  induction ts with
  | nil => contradiction
  | cons token ts ih =>
      cases token with
      | mark j =>
          rcases List.mem_cons.mp h with heq | h
          · obtain rfl := Token.mark.inj heq
            exact List.mem_cons_self
          · exact List.mem_cons_of_mem _ (ih h)
      | char c =>
          have hmem := ih ((List.mem_cons.mp h).resolve_left (by simp))
          rw [pieces]
          split
          · next hrun =>
            rw [hrun] at hmem
            exact List.mem_cons_of_mem _ ((List.mem_cons.mp hmem).resolve_left (by simp))
          · exact List.mem_cons_of_mem _ hmem

end Placeholder

namespace Html

open Json (exists_ok_of_map)
open Placeholder (Hidden Piece pieces)
open Text (Lacks)

variable {s : Substitution} {raw : String} {v : Value}

/-! ## Texts and attribute values -/

/-- A part of a template stands for a piece of a text. -/
inductive PartOf (s : Substitution) : Piece → Template.Part → Prop
  | literal {cs : List Char} : PartOf s (.literal cs) (.literal (String.ofList cs))
  | matcher {i : Nat} {m : Matcher} (h : s.matcher i = .ok m) :
      PartOf s (.mark i) (.matcher m)

/-- What a text or an attribute value with sentinels in it becomes: the text as it was
written, the matcher of its only sentinel, or a template of its pieces. -/
inductive Resolves (s : Substitution) (raw : String) : Value → Prop
  | literal : Resolves s raw (.literal (s.restore raw))
  | matcher {i : Nat} {m : Matcher} (hwhole : s.whole? (Text.trimmed raw) = some i)
      (hmatcher : s.matcher i = .ok m) : Resolves s raw (.matcher m)
  | template {t : Template} (hparts : List.Forall₂ (PartOf s) (pieces (s.tokens raw)) t.parts) :
      Resolves s raw (.template t)

theorem partOf_of_templateParts? {ps : List Piece} {parts : List Template.Part}
    (h : templateParts? s ps = some parts) : List.Forall₂ (PartOf s) ps parts := by
  induction ps generalizing parts with
  | nil =>
      obtain rfl := Option.some.inj h
      exact .nil
  | cons p ps ih =>
      cases p with
      | literal cs =>
          obtain ⟨rest, hrest, rfl⟩ := Option.map_eq_some_iff.mp h
          exact .cons .literal (ih hrest)
      | mark i =>
          rw [templateParts?] at h
          split at h
          · next hm =>
            split at h
            · obtain ⟨rest, hrest, rfl⟩ := Option.map_eq_some_iff.mp h
              exact .cons (.matcher hm) (ih hrest)
            · contradiction
          · contradiction

/-- **What becomes of a text or an attribute value.** -/
theorem resolves_of_resolve (h : resolve s raw = .ok v) : Resolves s raw v := by
  unfold resolve at h
  dsimp only at h
  split at h
  · next hany =>
    have hmarks : ∀ i, Placeholder.Token.mark i ∉ s.tokens raw := by
      intro i hi
      have hmark : (pieces (s.tokens raw)).any isMark = true :=
        List.any_eq_true.mpr ⟨.mark i, Placeholder.mem_pieces hi, rfl⟩
      simp [hmark] at hany
    have hrestore : s.restore raw = raw :=
      Substitution.restore_of_tokens (Placeholder.tokenize_eq_of_not_mem hmarks)
    have hliteral : Resolves s raw (.literal (s.restore raw)) := .literal
    rw [hrestore] at hliteral
    exact Except.ok.inj h ▸ hliteral
  · split at h
    · next i hwhole =>
      obtain ⟨m, hm, rfl⟩ := exists_ok_of_map h
      exact .matcher hwhole hm
    · split at h
      · cases h
        exact .literal
      · next hparts =>
        split at h
        · next ht =>
          cases h
          exact .template (Template.parts_of_ofParts ht ▸ partOf_of_templateParts? hparts)
        · cases h

/-- The literal texts in a value. -/
def Value.literals : Value → List String
  | .literal text => [text]
  | .matcher _ => []
  | .template t => t.parts.filterMap fun
    | .literal text => some text
    | .matcher _ => none

/-- Literal parts are what literal pieces are. -/
theorem hidden_of_partOf {count : Nat} {ps : List Piece} {parts : List Template.Part}
    (h : List.Forall₂ (PartOf s) ps parts) (hps : ∀ run, .literal run ∈ ps → Hidden count run) :
    ∀ text, .literal text ∈ parts → Hidden count text.toList := by
  induction h with
  | nil => exact fun text htext => absurd htext List.not_mem_nil
  | cons hpart _ ih =>
      intro text htext
      rcases List.mem_cons.mp htext with rfl | htext
      · cases hpart
        rw [String.toList_ofList]
        exact hps _ List.mem_cons_self
      · exact ih (fun run hrun => hps run (List.mem_cons_of_mem _ hrun)) text htext

/-- **Literal text in a value holds only hidden sentinels.** -/
theorem Resolves.hidden (h : Resolves s raw v)
    (hexpressions : ∀ i, Lacks Placeholder.sentinelFront (s.expression i).toList) :
    ∀ text ∈ v.literals, Hidden s.expressions.length text.toList := by
  intro text htext
  cases h with
  | literal =>
      rw [List.mem_singleton.mp htext]
      exact Substitution.hidden_restore hexpressions raw
  | matcher => exact absurd htext List.not_mem_nil
  | template hparts =>
      obtain ⟨part, hmem, hpart⟩ := List.mem_filterMap.mp htext
      cases part with
      | matcher m => cases hpart
      | literal other =>
          obtain rfl := Option.some.inj hpart
          exact hidden_of_partOf hparts (fun _ => Placeholder.hidden_of_mem_pieces) _ hmem

/-! ## Pages -/

/-- What a text or an attribute value becomes, and that no sentinel stays in it which
the search could have found. -/
structure Settles (s : Substitution) (raw : String) (v : Value) : Prop where
  resolves : Resolves s raw v
  hidden : ∀ text ∈ v.literals, Hidden s.expressions.length text.toList

/-- What becomes of a part of a page: names are unmarked, each text and each attribute
value is settled, and comments stay as they are. An element keeps all its attributes;
of two with one name, which drawings and formulas may have, the later counts. -/
inductive Follows (s : Substitution) : Tree → Node → Prop
  | element {path tag : String} {attributes : List Attribute} {pairs : List (String × Value)}
      {children : List Tree} {nodes : List Node} (htag : Unmarked tag)
      (hnames : ∀ a ∈ attributes, Unmarked a.name)
      (hpairs : List.Forall₂ (fun a pair => pair.1 = a.name ∧ Settles s a.value pair.2)
        attributes pairs)
      (hchildren : List.Forall₂ (Follows s) children nodes) :
      Follows s (.element tag attributes children)
        (.element path tag (Json.ofPairs pairs) nodes)
  | text {path raw : String} {v : Value} (h : Settles s raw v) :
      Follows s (.text raw) (.text path v)
  | comment {path text : String} : Follows s (.comment text) (.comment path text)
  | doctype {path name : String} (h : Unmarked name) :
      Follows s (.doctype name) (.doctype path name)

/-- Attributes are settled one by one. -/
theorem settles_of_resolveAttributes {as : List Attribute} {pairs : List (String × Value)}
    (hsettles : ∀ {raw v}, resolve s raw = .ok v → Settles s raw v)
    (h : resolveAttributes (resolve s) as = .ok pairs) :
    List.Forall₂ (fun a pair => pair.1 = a.name ∧ Settles s a.value pair.2) as pairs := by
  induction as generalizing pairs with
  | nil =>
      cases h
      exact .nil
  | cons a as ih =>
      rw [resolveAttributes] at h
      split at h
      · contradiction
      · next v hv =>
        obtain ⟨rest, hrest, rfl⟩ := exists_ok_of_map h
        exact .cons ⟨rfl, hsettles hv⟩ (ih hrest)

mutual

/-- What becomes of a part with unmarked names. -/
theorem follows_node (hsettles : ∀ {raw v}, resolve s raw = .ok v → Settles s raw v)
    {parent : String} {seen : List String} (t : Tree) {n : Node} (ht : t.Unmarked)
    (h : Tree.node (resolve s) parent seen t = .ok n) : Follows s t n := by
  cases t with
  | element tag attributes children =>
      obtain ⟨htag, hattributes, hchildren⟩ := ht
      rw [Tree.node] at h
      split at h
      · contradiction
      · next pairs hpairs =>
        obtain ⟨ns, hns, rfl⟩ := exists_ok_of_map h
        exact .element htag hattributes (settles_of_resolveAttributes hsettles hpairs)
          (follows_nodes hsettles children hchildren hns)
  | text raw =>
      rw [Tree.node] at h
      obtain ⟨v, hv, rfl⟩ := exists_ok_of_map h
      exact .text (hsettles hv)
  | comment text =>
      rw [Tree.node, Except.ok.injEq] at h
      exact h ▸ .comment
  | doctype name =>
      rw [Tree.node, Except.ok.injEq] at h
      cases ht with
      | doctype hname => exact h ▸ .doctype hname

/-- What becomes of parts with unmarked names. -/
theorem follows_nodes (hsettles : ∀ {raw v}, resolve s raw = .ok v → Settles s raw v)
    {parent : String} {seen : List String} (ts : List Tree) {ns : List Node}
    (hts : ∀ t ∈ ts, t.Unmarked) (h : Tree.nodes (resolve s) parent seen ts = .ok ns) :
    List.Forall₂ (Follows s) ts ns := by
  cases ts with
  | nil =>
      rw [Tree.nodes, Except.ok.injEq] at h
      exact h ▸ .nil
  | cons t ts =>
      obtain ⟨ht, hrest⟩ := List.forall_mem_cons.mp hts
      rw [Tree.nodes] at h
      split at h
      · contradiction
      · next n hn =>
        obtain ⟨ns, hns, rfl⟩ := exists_ok_of_map h
        exact .cons (follows_node hsettles t ht hn) (follows_nodes hsettles ts hrest hns)

end

mutual

/-- A node and the nodes below it. -/
def Node.all : Node → List Node
  | .element path tag attributes children =>
    .element path tag attributes children :: Node.allOf children
  | .text path v => [.text path v]
  | .comment path t => [.comment path t]
  | .doctype path name => [.doctype path name]

/-- Nodes and the nodes below them. -/
def Node.allOf : List Node → List Node
  | [] => []
  | n :: ns => n.all ++ Node.allOf ns

end

/-- The names that a node has itself. -/
def Node.names : Node → List String
  | .element _ tag attributes _ => tag :: attributes.map Prod.fst
  | .doctype _ name => [name]
  | .text _ _ | .comment _ _ => []

/-- The text or the attribute values that a node has itself. -/
def Node.values : Node → List Value
  | .element _ _ attributes _ => attributes.map Prod.snd
  | .text _ v => [v]
  | .comment _ _ | .doctype _ _ => []

/-- The names of a node are unmarked, and sentinels are hidden in its literal texts. -/
structure Node.Cleared (count : Nat) (n : Node) : Prop where
  names : ∀ name ∈ n.names, Unmarked name
  values : ∀ v ∈ n.values, ∀ text ∈ v.literals, Hidden count text.toList

mutual

/-- What follows a part of a page is cleared. -/
theorem cleared_of_follows (n : Node) {t : Tree} (h : Follows s t n) :
    ∀ m ∈ n.all, m.Cleared s.expressions.length := by
  cases h with
  | @element path tag attributes pairs children nodes htag hnames hpairs hchildren =>
      intro m hm
      rw [Node.all] at hm
      rcases List.mem_cons.mp hm with rfl | hm
      · have hattribute : ∀ pair ∈ Json.ofPairs pairs,
            ∃ a ∈ attributes, pair.1 = a.name ∧ Settles s a.value pair.2 :=
          fun pair hpair => Json.exists_left_of_forall₂ hpairs (Json.mem_of_mem_ofPairs hpair)
        constructor
        · refine List.forall_mem_cons.mpr ⟨htag, fun name hname => ?_⟩
          obtain ⟨pair, hpair, rfl⟩ := List.mem_map.mp hname
          obtain ⟨a, ha, hname, -⟩ := hattribute pair hpair
          exact hname ▸ hnames a ha
        · intro v hv
          obtain ⟨pair, hpair, rfl⟩ := List.mem_map.mp hv
          obtain ⟨a, -, -, hsettled⟩ := hattribute pair hpair
          exact hsettled.hidden
      · exact cleared_of_followsAll nodes hchildren m hm
  | text hsettles =>
      rw [Node.all, List.forall_mem_singleton]
      exact ⟨fun _ h => absurd h List.not_mem_nil, List.forall_mem_singleton.mpr hsettles.hidden⟩
  | comment =>
      rw [Node.all, List.forall_mem_singleton]
      exact ⟨fun _ h => absurd h List.not_mem_nil, fun _ h => absurd h List.not_mem_nil⟩
  | doctype hname =>
      rw [Node.all, List.forall_mem_singleton]
      exact ⟨List.forall_mem_singleton.mpr hname, fun _ h => absurd h List.not_mem_nil⟩

theorem cleared_of_followsAll (ns : List Node) {ts : List Tree}
    (h : List.Forall₂ (Follows s) ts ns) :
    ∀ m ∈ Node.allOf ns, m.Cleared s.expressions.length := by
  cases h with
  | nil => exact fun m hm => absurd hm List.not_mem_nil
  | @cons t n ts ns hn hns =>
      intro m hm
      exact (List.mem_append.mp hm).elim (cleared_of_follows n hn m)
        (cleared_of_followsAll ns hns m)

end

/-- **What becomes of an expected page** that is written without the name of the
sentinels.  Every part of the page as it is read becomes a node: names stay without
sentinels, every text and every attribute value becomes a matcher, a template or
literal text, with the placeholders in it as matchers, as parts of the template or as
they were written, and comments stay as they are.  So no name holds a sentinel, and
literal texts hold none that the search could have found.

A placeholder that is in no text and no attribute value of the page as it is read
becomes none of these: it stays as a sentinel in a comment, or as something else in
the name of a tag, an attribute or a declaration, and it is gone in a repeated
attribute, in an end tag and behind the name of a declaration. -/
theorem follows_readExpected {text : String} {e : Expected}
    (htext : Lacks "__MATCHER".toList text.toList) (h : readExpected text = .ok e) :
    e.substitution = Substitution.ofText .plain text ∧
      (∃ nodes, e.root = .element "" documentTag [] nodes ∧
        List.Forall₂ (Follows e.substitution) (Tree.ofText e.substitution.text) nodes) ∧
      ∀ n ∈ e.root.all, n.Cleared e.substitution.expressions.length := by
  have hfront : Lacks Placeholder.sentinelFront text.toList := htext.of_needle (by decide)
  have hsettles : ∀ {raw v}, resolve (Substitution.ofText .plain text) raw = .ok v →
      Settles (Substitution.ofText .plain text) raw v := by
    intro raw v hv
    have hresolves := resolves_of_resolve hv
    exact ⟨hresolves, hresolves.hidden
      (Substitution.lacks_expression (by decide) .plain hfront)⟩
  unfold readExpected wrap at h
  obtain ⟨root, hroot, rfl⟩ := exists_ok_of_map h
  obtain ⟨nodes, hnodes, rfl⟩ := exists_ok_of_map hroot
  have hfollows := follows_nodes hsettles _ (Tree.unmarked_ofText _) hnodes
  refine ⟨rfl, ⟨nodes, rfl, hfollows⟩, ?_⟩
  rw [Node.all, List.forall_mem_cons]
  refine ⟨⟨?_, ?_⟩, ?_⟩
  · exact List.forall_mem_singleton.mpr (unmarked_of_not_mem (by decide))
  · exact fun _ h => absurd h List.not_mem_nil
  · exact cleared_of_followsAll nodes hfollows

/-- A page with placeholders as an attribute value and as a text. -/
theorem follows_readExpected_paragraph :
    Lacks "__MATCHER".toList
        "<p id=\x7B\x7BanyInt\x7D\x7D>\x7B\x7BanyString\x7D\x7D</p>".toList ∧
      ∃ e, readExpected "<p id=\x7B\x7BanyInt\x7D\x7D>\x7B\x7BanyString\x7D\x7D</p>" =
          .ok e ∧
        ∀ n ∈ e.root.all, n.Cleared e.substitution.expressions.length := by
  have hlacks : Lacks "__MATCHER".toList
      "<p id=\x7B\x7BanyInt\x7D\x7D>\x7B\x7BanyString\x7D\x7D</p>".toList := by
    decide +kernel
  obtain ⟨e, he, -⟩ : ∃ e, readExpected
      "<p id=\x7B\x7BanyInt\x7D\x7D>\x7B\x7BanyString\x7D\x7D</p>" = .ok e ∧
        e.substitution.expressions.length = 2 :=
    Json.exists_ok_of_any (by decide +kernel)
  exact ⟨hlacks, e, he, (follows_readExpected hlacks he).2.2⟩

/-- **Comments keep sentinels**, and so does text that is glued together in front of a
sentinel.  A placeholder in the name of an attribute becomes another name, and in a
repeated attribute, in an end tag and behind the name of a declaration it is lost. -/
theorem exists_leftover_of_readExpected :
    (∃ e, readExpected "<!--\x7B\x7BanyInt\x7D\x7D-->" = .ok e ∧
      e.root.all.any (fun
        | .comment _ text => text == "__MATCHER_0__"
        | _ => false) = true) ∧
    (∃ e, readExpected "<p>__MATCH</x>ER\x7B\x7BanyInt\x7D\x7D</p>" = .ok e ∧
      e.root.all.any (fun
        | .text _ v => v == .literal "__MATCHER__MATCHER_0__"
        | _ => false) = true) ∧
    (∃ e, readExpected "<p \x7B\x7BanyInt\x7D\x7D>a</p>" = .ok e ∧
      e.root.all.flatMap Node.values = [.literal "", .literal "a"] ∧
      e.root.all.any (fun n => n.names == ["p", "__matcher_0__"]) = true) ∧
    ∃ e, readExpected ("<!DOCTYPE html \x7B\x7BanyInt\x7D\x7D>" ++
        "<p id=1 id=\x7B\x7BanyInt\x7D\x7D>a</p \x7B\x7BanyInt\x7D\x7D>") = .ok e ∧
      e.root.all.flatMap Node.values = [.literal "1", .literal "a"] ∧
      e.root.all.flatMap Node.names =
        ["#document", "html", "html", "head", "body", "p", "id"] :=
  ⟨Json.exists_ok_of_any (by decide +kernel), Json.exists_ok_of_any (by decide +kernel),
    Json.exists_ok_of_any (by decide +kernel), Json.exists_ok_of_any (by decide +kernel)⟩

end Html

end Expectation
