import Expectation.Proofs.Html.Pages

/-!
# A page is written and read again

The text that is written for a settled page denotes the page again, up to layout and with its
comments padded.  So an update leaves an expected page that matches the document, unless one of the
comments changes when it is padded.

## Main results

* `bareList_ofText`: the text of a page denotes the page.
* `check_expectedText`: a page matches the text that is written for it exactly if its comments are
  padded.
* `check_expectedText_comment`, `check_expectedText_noscript`: pages that do not match.
-/

namespace Expectation.Html

open Text (Lacks utf8)

/-! ## Settled pages are orderly -/

namespace Tree

theorem orderly_of_settledUpTo {name : String} (hname : name ≠ documentTag)
    {inside behind : List Tree → Bool}
    (hinside : ∀ ts, inside ts = true → ∀ t ∈ ts, t.Orderly)
    (hbehind : ∀ ts, behind ts = true → ∀ t ∈ ts, t.Orderly) {ts : List Tree}
    (h : settledUpTo name inside behind ts = true) : ∀ t ∈ ts, t.Orderly := by
  induction ts with
  | nil => simp
  | cons t ts ih =>
      cases t with
      | element tag as us =>
          simp only [settledUpTo, Bool.and_eq_true, beq_iff_eq] at h
          obtain ⟨⟨⟨rfl, -⟩, hus⟩, hts⟩ := h
          exact List.forall_mem_cons.mpr ⟨.element hname (hinside us hus), hbehind ts hts⟩
      | text =>
          simp only [settledUpTo, Bool.and_eq_true] at h
          exact List.forall_mem_cons.mpr ⟨.text, ih h.2⟩
      | comment =>
          simp only [settledUpTo, Bool.and_eq_true] at h
          exact List.forall_mem_cons.mpr ⟨.comment, ih h.2⟩
      | doctype => simp [settledUpTo] at h

theorem orderly_of_settledBehind (ts : List Tree) (h : settledBehind ts = true) :
    ∀ t ∈ ts, t.Orderly := by
  induction ts with
  | nil => simp
  | cons t ts ih =>
      cases t with
      | text =>
          simp only [settledBehind, Bool.and_eq_true] at h
          exact List.forall_mem_cons.mpr ⟨.text, ih h.2⟩
      | comment =>
          simp only [settledBehind, Bool.and_eq_true] at h
          exact List.forall_mem_cons.mpr ⟨.comment, ih h.2⟩
      | element | doctype => simp [settledBehind] at h

theorem orderly_of_settledRoot {ts : List Tree} (h : settledRoot ts = true) :
    ∀ t ∈ ts, t.Orderly := by
  refine orderly_of_settledUpTo (by decide) (fun us => orderly_of_settleIn us) ?_ h
  intro us hus
  exact orderly_of_settledUpTo (by decide) (fun vs => orderly_of_settleIn vs)
    orderly_of_settledBehind hus

theorem orderly_of_settledPage {declared : Bool} {ts : List Tree}
    (h : settledPage declared ts = true) : ∀ t ∈ ts, t.Orderly := by
  induction ts generalizing declared with
  | nil => simp
  | cons t ts ih =>
      cases t with
      | element tag as us =>
          simp only [settledPage, Bool.and_eq_true, beq_iff_eq] at h
          obtain ⟨⟨⟨rfl, -⟩, hus⟩, hts⟩ := h
          exact List.forall_mem_cons.mpr ⟨.element (by decide) (orderly_of_settledRoot hus),
            orderly_of_settledBehind ts hts⟩
      | text => simp [settledPage] at h
      | comment =>
          simp only [settledPage, Bool.and_eq_true] at h
          exact List.forall_mem_cons.mpr ⟨.comment, ih h.2⟩
      | doctype =>
          simp only [settledPage, Bool.and_eq_true] at h
          exact List.forall_mem_cons.mpr ⟨.doctype, ih h.2⟩

end Tree

/-! ## Writing a page and reading it again -/

theorem normalizeLines_of_not_mem {cs : List Char} (h : '\r' ∉ cs) : normalizeLines cs = cs := by
  induction cs with
  | nil => rfl
  | cons c cs ih =>
      obtain ⟨hc, hcs⟩ : '\r' ≠ c ∧ '\r' ∉ cs := by simpa using h
      unfold normalizeLines
      split
      · simp_all
      · simp_all
      · simp_all
      · rename_i heq
        obtain ⟨rfl, rfl⟩ := List.cons.inj heq
        rw [ih hcs]

/-- The lines of a page begin with a bracket. -/
theorem lines_of_settledPage {declared : Bool} {ts : List Tree}
    (hts : Tree.settledPage declared ts = true) :
    ∃ rest, Tree.lines 0 false ts = '\n' :: '<' :: rest := by
  cases ts with
  | nil => simp [Tree.settledPage] at hts
  | cons t ts =>
      cases t with
      | text => simp [Tree.settledPage] at hts
      | element => simp [Tree.lines, Tree.isBlankText, Tree.line, openingText, margin]
      | comment => simp [Tree.lines, Tree.isBlankText, Tree.line, commentText, margin]
      | doctype => simp [Tree.lines, Tree.isBlankText, Tree.line, doctypeText, margin]

theorem filter_ne_nil_of_settledPage {declared : Bool} {ts : List Tree}
    (hts : Tree.settledPage declared ts = true) : ts.filter (!·.isBlankText) ≠ [] := by
  cases ts with
  | nil => simp [Tree.settledPage] at hts
  | cons t ts =>
      cases t with
      | text => simp [Tree.settledPage] at hts
      | element | comment | doctype => simp [Tree.isBlankText]

/-- **The text of a page denotes the page**, up to layout and with its comments padded. -/
theorem bareList_ofText {ts : List Tree} (hts : Tree.settledPage false ts = true) {text : String}
    (htext : '\n' :: text.toList = Tree.lines 0 false ts ++ ['\n'])
    (hreturn : '\r' ∉ text.toList) :
    Tree.bareList (Tree.ofText text) = Tree.bareList (Tree.paddedList ts) := by
  have hpage : pageText text = text.toList := by
    obtain ⟨rest, hlines⟩ := lines_of_settledPage hts
    obtain ⟨cs, hcs⟩ : ∃ cs, text.toList = '<' :: cs := by
      rw [hlines] at htext
      exact ⟨_, (List.cons.inj htext).2⟩
    have hmark : withoutMark text.toList = text.toList := by
      rw [hcs]
      rfl
    rw [pageText, hmark, normalizeLines_of_not_mem hreturn]
  obtain ⟨b, i, j, body, html, page, hleads, hready, hbody, hkids⟩ :=
    Builder.Ready.readPage hts Builder.ready_start
  rw [← htext] at hleads
  -- the page begins behind the line end in front of its first line
  have hstart : ∀ fuel, Builder.read (fuel + 1) {} ('\n' :: text.toList) =
      Builder.read fuel {} text.toList := fun _ => rfl
  obtain ⟨n, hn, hread⟩ := hleads
  have hb : Builder.read (2 * text.toList.length + 2) {} text.toList = b.unskipped := by
    have hend := hread (2 * text.toList.length + 2 - n)
    have hfuel : 2 * text.toList.length + 2 - n + 1 + n = 2 * text.toList.length + 2 + 1 := by
      simp only [List.length_cons, List.length_nil] at hn
      omega
    rw [hfuel, hstart, hready.finish (congrArg Prod.fst hbody)] at hend
    exact hend
  have hcontent : Tree.ofText text = (page.add (html.add body.tree).tree).kids := by
    rw [Tree.ofText, hpage]
    simp only [hb]
    exact hready.content
  rw [hcontent, hkids]
  rfl

/-- **A page matches the text that is written for it exactly if its comments are padded**, if it
is read as it is written and the text holds no front of a placeholder. -/
theorem check_expectedText {text : String} {n : Node} (hn : readActualText text = .ok n)
    (hsettled : Tree.settledPage false (Tree.ofText text) = true)
    (hlacks : Lacks ['\x7B', '\x7B'] n.expectedText.toList) (hreturn : '\r' ∉ n.expectedText.toList)
    (p : Report.Palette) :
    ∃ v, check n.expectedText (utf8 text) {} p = .ok v ∧
      (v = ⟨[], none, ""⟩ ↔ n.padded = n) := by
  have hpage : pageOf (Tree.ofText text) = n := by
    have hread : readActualText text = wrap resolveLiteral (Tree.ofText text) := rfl
    rw [hread, wrap_literal] at hn
    exact Except.ok.inj hn
  generalize hts : Tree.ofText text = ts at hsettled hpage
  subst hpage
  have hwritten := expectedText_pageOf (Tree.orderly_of_settledPage hsettled)
    (filter_ne_nil_of_settledPage hsettled)
  have hagain := bareList_ofText hsettled hwritten hreturn
  rw [check_eq_checkWith]
  refine checkWith_expectedText Tree.ofText (by rw [hts, wrap_literal]) (wrap_literal _) ?_ hlacks p
  rw [bare_pageOf, hagain, padded_pageOf, bare_pageOf]

/-- Tables, drawings, templates and comments behind the root element are read as they are
written. -/
example : Tree.settledPage true [.element "html" [] [.element "head" [] [],
    .element "body" [] [
      .element "table" [] [.element "tbody" [] [.element "tr" [] [.element "td" [] [.text "a"]]]],
      .element "svg" [⟨none, "viewBox", "x"⟩] [.element "title" [] [.text "b"]],
      .element "template" [] []],
    .comment "c"], .comment "d"] = true := by
  decide +kernel

/-- A page with a title, a text that has to be escaped, and a comment that is padded. -/
theorem check_expectedText_paragraph :
    ∃ n v, readActualText "<title>t</title><p class=x>a < <b>b</b></p><!-- c -->" = .ok n ∧
      Tree.settledPage false
        (Tree.ofText "<title>t</title><p class=x>a < <b>b</b></p><!-- c -->") = true ∧
      Lacks ['\x7B', '\x7B'] n.expectedText.toList ∧ '\r' ∉ n.expectedText.toList ∧
      check n.expectedText (utf8 "<title>t</title><p class=x>a < <b>b</b></p><!-- c -->") {} {} =
        .ok v ∧ v = ⟨[], none, ""⟩ := by
  obtain ⟨n, hn, hlacks, hreturn, hpadded⟩ : ∃ n,
      readActualText "<title>t</title><p class=x>a < <b>b</b></p><!-- c -->" = .ok n ∧
        Lacks ['\x7B', '\x7B'] n.expectedText.toList ∧ '\r' ∉ n.expectedText.toList ∧
          n.padded = n :=
    Json.exists_ok_of_any (by decide +kernel)
  have hsettled : Tree.settledPage false
      (Tree.ofText "<title>t</title><p class=x>a < <b>b</b></p><!-- c -->") = true := by
    decide +kernel
  obtain ⟨v, hv, hmatch⟩ := check_expectedText hn hsettled hlacks hreturn {}
  exact ⟨n, v, hn, hsettled, hlacks, hreturn, hv, hmatch.mpr hpadded⟩

/-- A check that is seen to find differences. -/
theorem exists_check_of_any {text : String}
    (h : (readActualText text).toOption.any (fun n =>
      (check n.expectedText (utf8 text) {} {}).toOption.any fun r => !r.isMatch) = true) :
    ∃ n r, readActualText text = .ok n ∧
      check n.expectedText (utf8 text) {} {} = .ok r ∧ r.isMatch = false := by
  obtain ⟨n, hn, hcheck⟩ : ∃ n, readActualText text = .ok n ∧
      (check n.expectedText (utf8 text) {} {}).toOption.any (fun r => !r.isMatch) = true :=
    Json.exists_ok_of_any (by simpa using h)
  obtain ⟨r, hr, hmatch⟩ : ∃ r, check n.expectedText (utf8 text) {} {} = .ok r ∧
      r.isMatch = false := Json.exists_ok_of_any (by simpa using hcheck)
  exact ⟨n, r, hn, hr, hmatch⟩

/-- **Comments are padded when they are written**, and compared as they are. -/
theorem check_expectedText_comment :
    ∃ n r, readActualText "<!--x--><p>a</p>" = .ok n ∧
      check n.expectedText (utf8 "<!--x--><p>a</p>") {} {} = .ok r ∧ r.isMatch = false :=
  exists_check_of_any (by decide +kernel)

/-- **Texts are escaped where they are not read so**: only scripts and styles are spared, but
there are other elements whose content is taken as it stands. -/
theorem check_expectedText_noscript :
    ∃ n r, readActualText "<noscript><b>c</b></noscript>" = .ok n ∧
      check n.expectedText (utf8 "<noscript><b>c</b></noscript>") {} {} = .ok r ∧
      r.isMatch = false :=
  exists_check_of_any (by decide +kernel)

end Expectation.Html
