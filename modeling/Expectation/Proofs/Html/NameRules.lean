import Expectation.Proofs.Html.Names

/-!
# The rules keep names unmarked

The rules for tokens are made of a few operations on the unfinished page: something
is put into it, an element is opened, formatting is remembered, and for the rest only
the open elements and the mode change.  These operations are taken one by one, and so
are the rules that go through elements in a loop.  Every other rule only chooses among
what is known already; that is tagged for `grind`, which goes through the choices.

## Main results

* `Builder.Unmarked.adopt`: ending a formatting element.
* `Builder.Unmarked.bodyStep`: the rules of the body.
-/

namespace Expectation.Html

/-! ## Known names -/

theorem unmarked_of_not_mem {name : String} (h : '_' ∉ name.toList) : Unmarked name :=
  Text.lacks_of_not_mem (c := '_') (by decide) h

@[grind ←]
theorem Tag.Unmarked.rename {tag : Tag} {name : String} (h : tag.Unmarked)
    (hname : Html.Unmarked name) : Tag.Unmarked { tag with name } :=
  ⟨hname, h.2⟩

/-- The tags that the rules put in by themselves. -/
@[grind ←]
theorem unmarked_implied {name : String}
    (h : name = "html" ∨ name = "head" ∨ name = "body" ∨ name = "p" ∨ name = "br" ∨
      name = "colgroup" ∨ name = "tbody" ∨ name = "tr") : Tag.Unmarked { name } := by
  have hname : '_' ∉ name.toList := by
    rcases h with rfl | rfl | rfl | rfl | rfl | rfl | rfl | rfl <;> decide
  exact ⟨unmarked_of_not_mem hname, fun _ h => absurd h List.not_mem_nil⟩

theorem unmarked_respell {names : List String} {name : String}
    (hnames : ∀ n ∈ names, '_' ∉ n.toList) (h : Unmarked name) :
    Unmarked (Builder.respell names name) := by
  unfold Builder.respell
  cases hfind : names.find? (Text.sameName · name) with
  | none => exact h
  | some n => exact unmarked_of_not_mem (hnames n (List.mem_of_find?_eq_some hfind))

theorem unmarked_foreignAttribute (space : Space) {name : String} (value : String)
    (h : Unmarked name) : Unmarked (Builder.foreignAttribute space name value).name := by
  have hspaces : ∀ entry ∈ Builder.spaceAttributes, '_' ∉ entry.2.2.toList := by
    simp [Builder.spaceAttributes]
  have hsvg : ∀ n ∈ Builder.svgAttributes, '_' ∉ n.toList :=
    Text.Spelled.forall (p := fun cs => '_' ∉ cs)
      (by unfold Builder.svgAttributes; repeat' constructor) (by decide)
  unfold Builder.foreignAttribute
  split
  · next hfind => exact unmarked_of_not_mem (hspaces _ (List.mem_of_find?_eq_some hfind))
  · cases space with
    | html => exact h
    | svg => exact unmarked_respell hsvg h
    | math => exact unmarked_respell (by decide) h

/-! ## Remembered formatting -/

attribute [grind =] Formatting.Unmarked

namespace AllUnmarked

variable {f : Formatting} {fs gs : List Formatting}

theorem of_subset (h : AllUnmarked fs) (hgs : gs ⊆ fs) : AllUnmarked gs :=
  fun g hg => h g (hgs hg)

@[grind ←]
theorem cons (hf : f.Unmarked) (h : AllUnmarked fs) : AllUnmarked (f :: fs) :=
  List.forall_mem_cons.mpr ⟨hf, h⟩

@[grind ←]
theorem append (h : AllUnmarked fs) (hgs : AllUnmarked gs) : AllUnmarked (fs ++ gs) :=
  List.forall_mem_append.mpr ⟨h, hgs⟩

@[grind ←]
theorem drop (h : AllUnmarked fs) (n : Nat) : AllUnmarked (fs.drop n) :=
  h.of_subset (List.drop_subset n fs)

@[grind ←]
theorem takeWhile (h : AllUnmarked fs) (p : Formatting → Bool) : AllUnmarked (fs.takeWhile p) :=
  h.of_subset (List.takeWhile_sublist p).subset

@[grind ←]
theorem dropWhile (h : AllUnmarked fs) (p : Formatting → Bool) : AllUnmarked (fs.dropWhile p) :=
  h.of_subset (List.dropWhile_sublist p).subset

@[grind ←]
theorem reverse (h : AllUnmarked fs) : AllUnmarked fs.reverse :=
  h.of_subset fun _ hg => List.mem_reverse.mp hg

@[grind ←]
theorem eraseFirst (h : AllUnmarked fs) (test : Formatting → Bool) :
    AllUnmarked (Builder.eraseFirst test fs) := by
  induction fs with
  | nil => exact h
  | cons f fs ih =>
      obtain ⟨hf, hfs⟩ := List.forall_mem_cons.mp h
      rw [Builder.eraseFirst]
      split
      · exact hfs
      · exact (ih hfs).cons hf

@[grind ←]
theorem replaceEntry (h : AllUnmarked fs) (hf : f.Unmarked) (i : Nat) :
    AllUnmarked (Builder.replaceEntry i f fs) := by
  induction fs with
  | nil => exact h
  | cons g fs ih =>
      obtain ⟨hg, hfs⟩ := List.forall_mem_cons.mp h
      rw [Builder.replaceEntry]
      split
      · exact AllUnmarked.cons hf hfs
      · exact (ih hfs).cons hg

@[grind ←]
theorem putAfter (h : AllUnmarked fs) (hf : f.Unmarked) (i : Nat) :
    AllUnmarked (Builder.putAfter i f fs) := by
  induction fs with
  | nil => exact h
  | cons g fs ih =>
      obtain ⟨hg, hfs⟩ := List.forall_mem_cons.mp h
      rw [Builder.putAfter]
      split
      · exact AllUnmarked.cons hf h
      · exact (ih hfs).cons hg

@[grind ←]
theorem limitEntries (h : AllUnmarked fs) (tag : Tag) :
    AllUnmarked (Builder.limitEntries tag fs) := by
  unfold Builder.limitEntries
  grind

end AllUnmarked

namespace Builder.Unmarked

variable {b : Builder} {tag : Tag}

attribute [grind ←] Store.Unmarked.detach Store.Unmarked.append Store.Unmarked.moveChildren
attribute [grind ←] Builder.Unmarked.store Builder.Unmarked.formatting
attribute [grind =] Outcome.Unmarked

/-- Only the cells and the remembered formatting have names. -/
@[grind =]
theorem mk_iff (store : Store) (mode returnMode : Mode) (templateModes : List Mode)
    (pending : List Char) (oldRules : Bool) (opened : List Nat) (formatting : List Formatting)
    (head form : Option Nat) (framesetOk skipNewline skipMark fostering : Bool)
    (textMode : TextMode) :
    Builder.Unmarked ⟨store, mode, returnMode, templateModes, pending, oldRules, opened,
      formatting, head, form, framesetOk, skipNewline, skipMark, fostering, textMode⟩ ↔
        store.Unmarked ∧ AllUnmarked formatting :=
  ⟨fun h => ⟨h.store, h.formatting⟩, fun h => ⟨h.1, h.2⟩⟩

theorem ite {condition : Prop} [Decidable condition] {b b' : Builder} (h : b.Unmarked)
    (h' : b'.Unmarked) : (if condition then b else b').Unmarked := by
  split
  · exact h
  · exact h'

/-! ## Closing elements -/

@[grind ←]
theorem pop (h : b.Unmarked) : b.pop.Unmarked := by
  grind [Builder.pop]

@[grind ←]
theorem popThrough (h : b.Unmarked) (tags : List String) : (b.popThrough tags).Unmarked := by
  grind [Builder.popThrough]

@[grind ←]
theorem popTo (h : b.Unmarked) (tags : List String) : (b.popTo tags).Unmarked := by
  grind [Builder.popTo]

@[grind ←]
theorem closeImplied (h : b.Unmarked) (except : String) : (b.closeImplied except).Unmarked := by
  grind [Builder.closeImplied]

@[grind ←]
theorem closeElement (h : b.Unmarked) (name : String) : (b.closeElement name).Unmarked := by
  grind [Builder.closeElement]

@[grind ←]
theorem closeParagraph (h : b.Unmarked) : b.closeParagraph.Unmarked := by
  grind [Builder.closeParagraph]

@[grind ←]
theorem clearFormatting (h : b.Unmarked) : b.clearFormatting.Unmarked := by
  grind [Builder.clearFormatting]

@[grind ←]
theorem removeOpen (h : b.Unmarked) (i : Nat) : (b.removeOpen i).Unmarked := by
  grind [Builder.removeOpen]

@[grind ←]
theorem withMode (h : b.Unmarked) (mode : Mode) : (b.withMode mode).Unmarked := by
  grind [Builder.withMode]

@[grind ←]
theorem resetMode (h : b.Unmarked) : b.resetMode.Unmarked := by
  grind [Builder.resetMode]

@[grind ←]
theorem keepBody (h : b.Unmarked) : b.keepBody.Unmarked := by
  grind [Builder.keepBody]

/-! ## Putting something in -/

@[grind ←]
theorem put (h : b.Unmarked) (place : Place) (i : Nat) : (b.put place i).Unmarked := by
  unfold Builder.put
  split
  · exact ⟨h.store.append _ _, h.formatting⟩
  · split
    · exact ⟨h.store.insertBefore _ _, h.formatting⟩
    · exact ⟨h.store.append _ _, h.formatting⟩

@[grind ←]
theorem insertChar (h : b.Unmarked) (c : Char) : (b.insertChar c).Unmarked := by
  unfold Builder.insertChar
  dsimp only
  split
  · exact ⟨h.store.appendText _ _, h.formatting⟩
  · split
    · exact ⟨h.store.insertTextBefore _ _, h.formatting⟩
    · exact ⟨h.store.appendText _ _, h.formatting⟩

@[grind ←]
theorem commentIn (h : b.Unmarked) (place : Place) (text : String) :
    (b.commentIn place text).Unmarked := by
  have hnew : Builder.Unmarked { b with store := (b.store.create (.comment text)).2 } :=
    ⟨h.store.create trivial, h.formatting⟩
  exact hnew.put place _

@[grind ←]
theorem createElement (h : b.Unmarked) (space : Space) {tag : String} {attributes : List Attribute}
    (htag : Html.Unmarked tag) (has : ∀ a ∈ attributes, Html.Unmarked a.name) :
    (b.createElement space tag attributes).2.Unmarked := by
  have hitem : (Item.element space tag (Attribute.addMissing [] attributes)).Unmarked :=
    ⟨htag, fun a ha => (of_mem_addMissing ha).elim (fun h => absurd h List.not_mem_nil) (has a)⟩
  unfold Builder.createElement
  dsimp only
  split
  · have hinert : Item.inert.Unmarked := trivial
    exact ⟨((h.store.create hitem).create hinert).append _ _, h.formatting⟩
  · exact ⟨h.store.create hitem, h.formatting⟩

@[grind ←]
theorem insertAndOpen (h : b.Unmarked) (space : Space) {tag : String} {attributes : List Attribute}
    (htag : Html.Unmarked tag) (has : ∀ a ∈ attributes, Html.Unmarked a.name) :
    (b.insertAndOpen space tag attributes).2.Unmarked := by
  have hnew := h.createElement space htag has
  unfold Builder.insertAndOpen
  generalize b.createElement space tag attributes = new at hnew ⊢
  have hput := hnew.put b.place new.1
  exact ⟨hput.store, hput.formatting⟩

theorem plainAttributes (htag : tag.Unmarked) :
    ∀ a ∈ Builder.plainAttributes tag, Html.Unmarked a.name := by
  intro a ha
  obtain ⟨⟨name, value⟩, hmem, rfl⟩ := List.mem_map.mp ha
  exact htag.2 _ hmem

@[grind ←]
theorem insert (h : b.Unmarked) (htag : tag.Unmarked) : (b.insert tag).Unmarked :=
  h.insertAndOpen .html htag.1 (plainAttributes htag)

@[grind ←]
theorem insertVoid (h : b.Unmarked) (htag : tag.Unmarked) : (b.insertVoid tag).Unmarked :=
  have hinsert := h.insert htag
  ⟨hinsert.store, hinsert.formatting⟩

@[grind ←]
theorem addAttributes (h : b.Unmarked) (i : Nat) (htag : tag.Unmarked) :
    (b.addAttributes i tag).Unmarked :=
  ⟨h.store.addAttributes i (plainAttributes htag), h.formatting⟩

@[grind ←]
theorem insertComment (h : b.Unmarked) (text : String) : (b.insertComment text).Unmarked := by
  grind [Builder.insertComment]

@[grind ←]
theorem commentOnPage (h : b.Unmarked) (text : String) : (b.commentOnPage text).Unmarked := by
  grind [Builder.commentOnPage]

@[grind ←]
theorem commentInRoot (h : b.Unmarked) (text : String) : (b.commentInRoot text).Unmarked := by
  grind [Builder.commentInRoot]

@[grind ←]
theorem insertTag (h : b.Unmarked) (htag : tag.Unmarked) :
    (b.insertAndOpen .html tag.name (Builder.plainAttributes tag)).2.Unmarked :=
  h.insertAndOpen .html htag.1 (plainAttributes htag)

@[grind ←]
theorem insertImplied (h : b.Unmarked) {name : String} (hname : Tag.Unmarked { name }) :
    (b.insertImplied name).Unmarked :=
  h.insert hname

@[grind ←]
theorem insertText (h : b.Unmarked) (htag : tag.Unmarked) (mode : TextMode) :
    (b.insertText tag mode).Unmarked := by
  grind [Builder.insertText]

@[grind ←]
theorem insertForeign (h : b.Unmarked) (space : Space) (htag : tag.Unmarked) :
    (b.insertForeign space tag).Unmarked := by
  have has : ∀ a ∈ tag.attributes.map fun p => foreignAttribute space p.1 p.2,
      Html.Unmarked a.name := by
    intro a ha
    obtain ⟨⟨name, value⟩, hmem, rfl⟩ := List.mem_map.mp ha
    exact unmarked_foreignAttribute space value (htag.2 _ hmem)
  have hinsert := h.insertAndOpen space htag.1 has
  unfold Builder.insertForeign
  dsimp only
  split
  · exact hinsert.pop
  · exact hinsert

@[grind ←]
theorem insertRoot (h : b.Unmarked) (htag : tag.Unmarked) : (b.insertRoot tag).Unmarked := by
  have hname : Html.Unmarked "html" := unmarked_of_not_mem (by decide)
  have hroot := h.createElement .html hname (plainAttributes htag)
  unfold Builder.insertRoot
  generalize b.createElement .html "html" (Builder.plainAttributes tag) = root at hroot ⊢
  exact ⟨hroot.store.append _ _, hroot.formatting⟩

theorem placeDoctype (h : b.Unmarked) {d : Doctype} (hd : (Token.doctype d).Unmarked) :
    (b.placeDoctype d).Unmarked := by
  have hitem : (Item.doctype (d.name.getD "")).Unmarked := by
    cases hname : d.name with
    | none => exact unmarked_of_not_mem (by decide)
    | some name => exact hd name hname
  unfold Builder.placeDoctype
  split
  · exact ⟨(h.store.create hitem).append _ _, h.formatting⟩
  · exact h

/-! ## Formatting -/

@[grind ←]
theorem forget (h : b.Unmarked) (i : Nat) : (b.forget i).Unmarked :=
  ⟨h.store, h.formatting.eraseFirst _⟩

@[grind ←]
theorem insertFormatting (h : b.Unmarked) (htag : tag.Unmarked) :
    (b.insertFormatting tag).Unmarked :=
  ⟨(h.insertTag htag).store, AllUnmarked.cons htag (h.formatting.limitEntries tag)⟩

theorem reopen {entries : List Formatting} (hentries : AllUnmarked entries) (h : b.Unmarked) :
    (b.reopen entries).Unmarked := by
  induction entries generalizing b with
  | nil => exact h
  | cons entry entries ih =>
      obtain ⟨hentry, hrest⟩ := List.forall_mem_cons.mp hentries
      cases entry with
      | marker => exact ih hrest ⟨h.store, AllUnmarked.cons trivial h.formatting⟩
      | element i tag =>
          have hinsert := h.insertTag hentry
          exact ih hrest ⟨hinsert.store, AllUnmarked.cons hentry hinsert.formatting⟩

@[grind ←]
theorem reopenFormatting (h : b.Unmarked) : b.reopenFormatting.Unmarked :=
  reopen (h.formatting.takeWhile _).reverse ⟨h.store, h.formatting.drop _⟩

theorem of_formattingTag? (h : b.Unmarked) {i : Nat} (htag : b.formattingTag? i = some tag) :
    tag.Unmarked := by
  obtain ⟨f, hf, heq⟩ := List.exists_of_findSome?_eq_some htag
  cases f with
  | marker => contradiction
  | element j other =>
      dsimp only at heq
      split at heq
      · exact Option.some.inj heq ▸ h.formatting _ hf
      · contradiction

theorem of_latest? {name : String} {i : Nat} {entries : List Formatting}
    (h : AllUnmarked entries) (hlatest : latest? name entries = some (i, tag)) :
    tag.Unmarked := by
  induction entries with
  | nil => contradiction
  | cons entry entries ih =>
      obtain ⟨hentry, hrest⟩ := List.forall_mem_cons.mp h
      cases entry with
      | marker => contradiction
      | element j other =>
          rw [latest?] at hlatest
          split at hlatest
          · cases hlatest
            exact hentry
          · exact ih hrest hlatest

@[grind ←]
theorem closeAny (h : b.Unmarked) (name : String) : (b.closeAny name).Unmarked := by
  grind [Builder.closeAny]

theorem splittingStep (counter : Nat) {s : Splitting} (h : s.builder.Unmarked) (i : Nat) :
    (s.step counter i).builder.Unmarked := by
  unfold Splitting.step
  split
  · exact h.forget i
  · split
    · exact h
    · next tag htag =>
      have hcopied := h.of_formattingTag? htag
      have hcopy := h.createElement .html hcopied.1 (plainAttributes hcopied)
      generalize s.builder.createElement .html tag.name (Builder.plainAttributes tag) = copy
        at hcopy ⊢
      exact ⟨hcopy.store.append _ _,
        AllUnmarked.replaceEntry (f := .element _ _) hcopy.formatting hcopied i⟩

theorem splittingRun (counter : Nat) {s : Splitting} (h : s.builder.Unmarked) (is : List Nat) :
    (s.run counter is).builder.Unmarked := by
  induction is generalizing counter s with
  | nil => exact h
  | cons i is ih => exact ih (counter + 1) (splittingStep counter h i)

theorem split (h : b.Unmarked) (htag : tag.Unmarked) (element block : Nat)
    (above between below : List Nat) :
    (b.split element tag above block between below).Unmarked := by
  have hrun := splittingRun 1 (s := ⟨b, block, [], none⟩) h between
  unfold Builder.split
  generalize Splitting.run 1 ⟨b, block, [], none⟩ between = s at hrun ⊢
  obtain ⟨b, last, kept, bookmark⟩ := s
  dsimp only at hrun ⊢
  have hdetached : Builder.Unmarked { b with store := b.store.detach last } :=
    ⟨hrun.store.detach last, hrun.formatting⟩
  generalize Builder.placeIn _ _ = place
  have hnew := (hdetached.put place last).createElement .html htag.1 (plainAttributes htag)
  have hentry : ∀ new, Formatting.Unmarked (.element new tag) := fun _ => htag
  rw [mk_iff]
  constructor
  · exact (hnew.store.moveChildren _ _).append _ _
  · cases bookmark with
    | none => exact hnew.formatting.replaceEntry (hentry _) element
    | some i => exact (hnew.formatting.putAfter (hentry _) i).eraseFirst _

/-- **Ending a formatting element keeps names unmarked**, in as many rounds as it takes. -/
theorem adopt (rounds : Nat) (name : String) (h : b.Unmarked) :
    (Builder.adopt rounds name b).Unmarked := by
  induction rounds generalizing b with
  | zero => exact h
  | succ rounds ih =>
      rw [Builder.adopt]
      split
      · exact h.closeAny name
      · next hlatest =>
        split
        · exact h.forget _
        · split
          · exact h
          · dsimp only
            split
            · exact ⟨h.store, h.formatting.eraseFirst _⟩
            · exact ih (h.split (of_latest? h.formatting hlatest) _ _ _ _ _)

@[grind ←]
theorem closeFormatting (h : b.Unmarked) (name : String) : (b.closeFormatting name).Unmarked := by
  have hadopt := h.adopt 8 name
  grind [Builder.closeFormatting]

@[grind ←]
theorem closeLink (h : b.Unmarked) : b.closeLink.Unmarked := by
  grind [Builder.closeLink]

/-! ## The head -/

@[grind ←]
theorem mergeRoot (h : b.Unmarked) (htag : tag.Unmarked) : (b.mergeRoot tag).Unmarked := by
  grind [Builder.mergeRoot]

@[grind ←]
theorem openHead (h : b.Unmarked) (htag : tag.Unmarked) : (b.openHead tag).Unmarked := by
  grind [Builder.openHead]

@[grind ←]
theorem openTemplate (h : b.Unmarked) (htag : tag.Unmarked) : (b.openTemplate tag).Unmarked := by
  grind [Builder.openTemplate]

@[grind ←]
theorem closeTemplate (h : b.Unmarked) : b.closeTemplate.Unmarked := by
  grind [Builder.closeTemplate]

theorem headTag? (h : b.Unmarked) (htag : tag.Unmarked) {b' : Builder}
    (hb' : b.headTag? tag = some b') : b'.Unmarked := by
  grind [Builder.headTag?]

grind_pattern headTag? => b.headTag? tag, some b'

@[grind ←]
theorem headTagElse (h : b.Unmarked) (htag : tag.Unmarked) :
    ((b.headTag? tag).getD b).Unmarked := by
  cases hfound : b.headTag? tag with
  | none => exact h
  | some b' => exact h.headTag? htag hfound

@[grind ←]
theorem headTagLate (h : b.Unmarked) (htag : tag.Unmarked) : (b.headTagLate tag).Unmarked := by
  grind [Builder.headTagLate]

@[grind ←]
theorem initialStep (h : b.Unmarked) {token : Token} (htoken : token.Unmarked) :
    (b.initialStep token).Unmarked := by
  cases token <;> grind [Builder.initialStep, Token.Unmarked]

@[grind ←]
theorem beforeRootStep (h : b.Unmarked) {token : Token} (htoken : token.Unmarked) :
    (b.beforeRootStep token).Unmarked := by
  cases token <;> grind [Builder.beforeRootStep, Token.Unmarked]

@[grind ←]
theorem beforeHeadStep (h : b.Unmarked) {token : Token} (htoken : token.Unmarked) :
    (b.beforeHeadStep token).Unmarked := by
  cases token <;> grind [Builder.beforeHeadStep, Token.Unmarked]

@[grind ←]
theorem headStep (h : b.Unmarked) {token : Token} (htoken : token.Unmarked) :
    (b.headStep token).Unmarked := by
  cases token <;> grind [Builder.headStep, Token.Unmarked]

@[grind ←]
theorem afterHeadStep (h : b.Unmarked) {token : Token} (htoken : token.Unmarked) :
    (b.afterHeadStep token).Unmarked := by
  cases token <;> grind [Builder.afterHeadStep, Token.Unmarked]

/-! ## The body -/

@[grind ←]
theorem bodyChar (h : b.Unmarked) (c : Char) : (b.bodyChar c).Unmarked := by
  grind [Builder.bodyChar]

@[grind ←]
theorem mergeBody (h : b.Unmarked) (htag : tag.Unmarked) : (b.mergeBody tag).Unmarked := by
  grind [Builder.mergeBody]

@[grind ←]
theorem replaceBody (h : b.Unmarked) (htag : tag.Unmarked) : (b.replaceBody tag).Unmarked := by
  grind [Builder.replaceBody]

@[grind ←]
theorem openItem (h : b.Unmarked) (htag : tag.Unmarked) : (b.openItem tag).Unmarked := by
  grind [Builder.openItem]

@[grind ←]
theorem openForm (h : b.Unmarked) (htag : tag.Unmarked) : (b.openForm tag).Unmarked := by
  grind [Builder.openForm]

@[grind ←]
theorem closeForm (h : b.Unmarked) : b.closeForm.Unmarked := by
  grind [Builder.closeForm]

@[grind ←]
theorem openButton (h : b.Unmarked) (htag : tag.Unmarked) : (b.openButton tag).Unmarked := by
  grind [Builder.openButton]

@[grind ←]
theorem openSelect (h : b.Unmarked) (htag : tag.Unmarked) : (b.openSelect tag).Unmarked := by
  grind [Builder.openSelect]

@[grind ←]
theorem closeInScope (h : b.Unmarked) (name : String) : (b.closeInScope name).Unmarked := by
  grind [Builder.closeInScope]

@[grind ←]
theorem closeHeading (h : b.Unmarked) : b.closeHeading.Unmarked := by
  grind [Builder.closeHeading]

@[grind ←]
theorem closeOrInsertParagraph (h : b.Unmarked) : b.closeOrInsertParagraph.Unmarked := by
  grind [Builder.closeOrInsertParagraph]

@[grind ←]
theorem insertInlineVoid (h : b.Unmarked) (htag : tag.Unmarked) :
    (b.insertInlineVoid tag).Unmarked := by
  grind [Builder.insertInlineVoid]

@[grind ←]
theorem bodyInlineTag (h : b.Unmarked) (htag : tag.Unmarked) :
    (b.bodyInlineTag tag).Unmarked := by
  have himage : Tag.Unmarked { tag with name := "img" } :=
    htag.rename (unmarked_of_not_mem (by decide))
  unfold Builder.bodyInlineTag
  dsimp only
  repeat' with_reducible apply ite
  all_goals grind

@[grind ←]
theorem bodyTag (h : b.Unmarked) (htag : tag.Unmarked) : (b.bodyTag tag).Unmarked := by
  unfold Builder.bodyTag
  dsimp only
  repeat' with_reducible apply ite
  all_goals grind

@[grind ←]
theorem bodyClosing (h : b.Unmarked) (name : String) : (b.bodyClosing name).Unmarked := by
  unfold Builder.bodyClosing
  repeat' with_reducible apply ite
  all_goals grind

@[grind ←]
theorem finishTemplate (h : b.Unmarked) : b.finishTemplate.Unmarked := by
  grind [Builder.finishTemplate]

@[grind ←]
theorem bodyStep (h : b.Unmarked) {token : Token} (htoken : token.Unmarked) :
    (b.bodyStep token).Unmarked := by
  cases token <;> grind [Builder.bodyStep, Token.Unmarked]

@[grind ←]
theorem textStep (h : b.Unmarked) (token : Token) : (b.textStep token).Unmarked := by
  have hback := h.pop.withMode b.returnMode
  cases token with
  | char c => exact h.insertChar c
  | closing => exact ⟨hback.store, hback.formatting⟩
  | finish => exact hback
  | opening | comment | doctype | fault => exact h

end Builder.Unmarked

end Expectation.Html
