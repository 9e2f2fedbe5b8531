import Expectation.Proofs.Command.Modes

/-!
# Where the actual document comes from

The actual document is a file, or it comes in on the standard input.  The size of a file can be
asked before it is read; that of a stream cannot, and so it is taken up to the limit and then
tried for one more byte.  Both ways accept the same contents (`readCapped_eq`).

From there on the source is a name that stands in messages only.  `Alike` says of two results
that they are the same unless both are failures; each part of a run respects it, and so a run
that gets a document from a file and one that gets its bytes from the standard input end alike.

The two runs need not find the same files: it is enough that both see the same expected
document and the same options file.  What the file of the actual document holds is not among
what a run sees when it reads the standard input, because what a file holds has no say in where
other paths lead.

## Main results

* `readCapped_eq`: a stream is refused exactly if a file of its size is.
* `seesAlike_writeAt`: another content of a file is not seen at other paths.
* `attempt_onInput`, `run_onInput`: the standard input and a file are the same source.
-/

namespace Expectation.Command

open Text (utf8)

/-! ## What is read of a stream -/

/-- **A stream is refused exactly if a file of its size is**, and read as a whole otherwise. -/
theorem readCapped_eq (limit : Nat) (stream : List UInt8) :
    readCapped limit stream = if limit < stream.length then none else some stream := by
  unfold readCapped
  by_cases hsize : limit < stream.length
  · have htaken : (stream.take limit).length = limit := List.length_take_of_le (by omega)
    simp [htaken, hsize]
  · have hall : stream.take limit = stream := List.take_of_length_le (by omega)
    have hnone : stream.drop limit = [] := List.drop_of_length_le (by omega)
    simp [hall, hnone, hsize]

/-! ## Results that are alike -/

/-- Two results are the same, or both are failures. -/
inductive Alike {α : Type} : Except Failure α → Except Failure α → Prop where
  | ok (a : α) : Alike (.ok a) (.ok a)
  | error (f f' : Failure) : Alike (.error f) (.error f')

namespace Alike

variable {α β : Type} {x y : Except Failure α}

theorem refl (x : Except Failure α) : Alike x x := by
  cases x with
  | ok a => exact .ok a
  | error f => exact .error f f

theorem map (h : Alike x y) (g : α → β) : Alike (x.map g) (y.map g) := by
  cases h with
  | ok a => exact .ok (g a)
  | error f f' => exact .error f f'

end Alike

theorem textOf_alike (source source' : String) (bytes : List UInt8) :
    Alike (textOf source bytes) (textOf source' bytes) := by
  unfold textOf
  cases Text.decode bytes with
  | ok text => exact .ok text
  | error fault => exact .error _ _

/-- **The standard input and a file with the same bytes are read alike**, whatever the limit. -/
theorem readSource_alike {w w' : World} {path : String} {bytes : List UInt8}
    (hfile : w.file path = .content bytes) (hname : path ≠ inputName) (hinput : w'.input = bytes)
    (limit : Nat) : Alike (readSource w' limit inputName) (readSource w limit path) := by
  rw [readSource, if_pos rfl, readCapped_eq, hinput, readSource, if_neg hname, readFile, hfile]
  by_cases hsize : limit < bytes.length
  · simp only [if_pos hsize]
    exact .error _ _
  · simp only [if_neg hsize]
    exact textOf_alike inputName path bytes

/-! ## What the name of the source has a say in -/

/-- The call with the standard input for the actual document. -/
def Call.onInput (call : Call) : Call := { call with actual := inputName }

namespace Call

variable (call : Call)

@[simp] theorem onInput_format : call.onInput.format = call.format := rfl

@[simp] theorem onInput_expected : call.onInput.expected = call.expected := rfl

@[simp] theorem onInput_actual : call.onInput.actual = inputName := rfl

@[simp] theorem onInput_options : call.onInput.options = call.options := rfl

@[simp] theorem onInput_optionsFile : call.onInput.optionsFile = call.optionsFile := rfl

@[simp] theorem onInput_update : call.onInput.update = call.update := rfl

@[simp] theorem onInput_quiet : call.onInput.quiet = call.quiet := rfl

@[simp] theorem onInput_sizeLimit : call.onInput.sizeLimit = call.sizeLimit := rfl

end Call

section Documents

variable (call : Call) (o : Options) (p : Report.Palette) (expected actual : String)

theorem initialText_onInput : Alike (initialText call.onInput actual) (initialText call actual) := by
  unfold initialText
  rw [Call.onInput_format]
  -- the readers have to stay closed: only the name in the failure differs
  generalize Json.readActualText actual = value, Html.readActualText actual = page
  cases call.format with
  | json => cases value <;> constructor
  | html => cases page <;> constructor

theorem revision_onInput :
    Alike (revision call.onInput o expected actual) (revision call o expected actual) := by
  unfold revision
  rw [Call.onInput_format]
  generalize Json.readExpected expected = tree, Json.readActualText actual = value,
    Html.readExpected expected = template, Html.readActualText actual = page
  cases call.format with
  | json => cases tree <;> cases value <;> constructor
  | html => cases template <;> cases page <;> constructor

theorem verdict_onInput :
    Alike (verdict call.onInput o p expected actual) (verdict call o p expected actual) := by
  unfold verdict
  rw [Call.onInput_format]
  generalize Json.checkText expected actual o.json p = compared,
    Html.checkText expected actual o.html p = rendered
  cases call.format with
  | json => cases compared <;> constructor
  | html => cases rendered <;> constructor

end Documents

/-! ## Runs -/

/-- The two worlds show a call the same expected document and the same options file, and in both
the expected document can be written, or cannot be for the same reason. -/
structure Call.SeesAlike (call : Call) (w w' : World) : Prop where
  expected : w'.file call.expected = w.file call.expected
  options : ∀ path ∈ call.optionsFile, w'.file path = w.file path
  writeFault : w'.writeFault call.expected = w.writeFault call.expected

section Runs

variable {w w' : World} {call : Call} {p : Report.Palette} {bytes : List UInt8}

theorem readFile_congr {path : String} (h : w'.file path = w.file path) (limit : Nat) :
    readFile w' limit path = readFile w limit path := by
  rw [readFile, readFile, h]

theorem Call.SeesAlike.optionsFor_eq (h : call.SeesAlike w w') :
    optionsFor w' call.onInput = optionsFor w call := by
  unfold optionsFor
  simp only [onInput_optionsFile, onInput_options, onInput_sizeLimit]
  cases hpath : call.optionsFile with
  | none => rfl
  | some path => simp only [readFile_congr (h.options path hpath)]

theorem Call.SeesAlike.readExisting_eq (h : call.SeesAlike w w') (limit : Nat) :
    readExisting w' limit call.expected = readExisting w limit call.expected := by
  rw [readExisting, readExisting, readFile_congr h.expected]

theorem Call.SeesAlike.writeOut_eq (h : call.SeesAlike w w') (text note : String) :
    writeOut w' call.quiet call.expected text note =
      writeOut w call.quiet call.expected text note := by
  rw [writeOut, writeOut, h.writeFault]

theorem create_onInput (h : call.SeesAlike w w') (actual : String) :
    Alike (create w' call.onInput actual) (create w call actual) := by
  have htext := initialText_onInput call actual
  unfold create
  simp only [Call.onInput_update, Call.onInput_expected, Call.onInput_quiet, h.writeOut_eq]
  generalize initialText call.onInput actual = x, initialText call actual = y at htext ⊢
  cases call.update with
  | false => exact .refl _
  | true =>
      cases htext with
      | error f f' => exact .error f f'
      | ok text => exact .ok _

theorem updateDocument_onInput (h : call.SeesAlike w w') (o : Options)
    (expected actual : String) :
    Alike (updateDocument w' call.onInput o expected actual)
      (updateDocument w call o expected actual) := by
  have hrevision := revision_onInput call o expected actual
  unfold updateDocument
  simp only [Call.onInput_expected, Call.onInput_quiet, Call.onInput_format, h.writeOut_eq]
  generalize revision call.onInput o expected actual = x,
    revision call o expected actual = y at hrevision ⊢
  cases hrevision with
  | error f f' => exact .error f f'
  | ok revised => exact .refl _

/-- **Both runs read the same**, or both fail at it. -/
theorem inputsOf_onInput (hactual : w.file call.actual = .content bytes)
    (hname : call.actual ≠ inputName) (hinput : w'.input = bytes) (h : call.SeesAlike w w') :
    Alike (inputsOf w' call.onInput) (inputsOf w call) := by
  have hsource := readSource_alike hactual hname hinput call.sizeLimit
  unfold inputsOf
  rw [h.optionsFor_eq]
  simp only [Call.onInput_actual, Call.onInput_expected, Call.onInput_sizeLimit, h.readExisting_eq]
  generalize readSource w' call.sizeLimit inputName = x,
    readSource w call.sizeLimit call.actual = y at hsource ⊢
  cases optionsFor w call with
  | error f => exact .refl _
  | ok o =>
      cases hsource with
      | error f f' => exact .error f f'
      | ok actual => exact .refl _

/-- **A call gets as far with the standard input as with a file.** -/
theorem attempt_onInput (hactual : w.file call.actual = .content bytes)
    (hname : call.actual ≠ inputName) (hinput : w'.input = bytes) (h : call.SeesAlike w w') :
    Alike (attempt w' call.onInput p) (attempt w call p) := by
  have hinputs := inputsOf_onInput hactual hname hinput h
  rw [attempt_eq, attempt_eq, Call.onInput_update]
  generalize inputsOf w' call.onInput = x, inputsOf w call = y at hinputs ⊢
  cases hinputs with
  | error f f' => exact .error f f'
  | ok inputs =>
      obtain ⟨o, actual, existing⟩ := inputs
      cases existing with
      | none => exact create_onInput h actual
      | some expected =>
          cases call.update with
          | true => exact updateDocument_onInput h o expected actual
          | false => exact (verdict_onInput call o p expected actual).map _

end Runs

/-! ## What a file holds -/

namespace Files

/-- The same directories, and files at the same places. -/
structure SameShape (files others : Files) : Prop where
  here : others.here = files.here
  isDirectory : ∀ place, others.isDirectory place = files.isDirectory place
  contentAt : ∀ place, (others.contentAt place).isSome = (files.contentAt place).isSome

theorem isDirectory_makeDirectory (files : Files) (made place : List String) :
    (files.makeDirectory made).isDirectory place = (place == made || files.isDirectory place) := by
  simp only [isDirectory, makeDirectory, List.contains_cons]
  cases isOutside place <;> simp [Bool.or_assoc]

theorem any_entries_writeAt {files : Files} {place : List String}
    (hfile : (files.contentAt place).isSome = true) (bytes : List UInt8)
    (f : List String → Bool) :
    (files.writeAt place bytes).entries.any (fun e => f e.1) =
      files.entries.any (fun e => f e.1) := by
  obtain ⟨entry, hentry, hplace⟩ : ∃ entry ∈ files.entries, entry.1 = place := by
    simpa [contentAt] using hfile
  rw [Bool.eq_iff_iff]
  simp only [writeAt, List.any_eq_true, List.mem_cons, List.mem_filter, bne_iff_ne]
  constructor
  · rintro ⟨e, rfl | ⟨he, -⟩, hf⟩
    · exact ⟨entry, hentry, hplace ▸ hf⟩
    · exact ⟨e, he, hf⟩
  · rintro ⟨e, he, hf⟩
    by_cases hsame : e.1 = place
    · exact ⟨(place, bytes), .inl rfl, hsame ▸ hf⟩
    · exact ⟨e, .inr ⟨he, hsame⟩, hf⟩

/-- Another content changes nothing but the content. -/
theorem sameShape_writeAt {files : Files} {place : List String}
    (hfile : (files.contentAt place).isSome = true) (bytes : List UInt8) :
    SameShape files (files.writeAt place bytes) where
  here := rfl
  isDirectory other := congrArg₂ or rfl
    (any_entries_writeAt hfile bytes fun entry => other.isPrefixOf entry && other != entry)
  contentAt other := by
    rw [contentAt_write]
    split
    · next hsame => rw [hsame, hfile, Option.isSome_some]
    · rfl

namespace SameShape

variable {files others : Files} (h : SameShape files others)
include h

theorem makeDirectory (made : List String) :
    SameShape (files.makeDirectory made) (others.makeDirectory made) where
  here := h.here
  isDirectory place := by rw [isDirectory_makeDirectory, isDirectory_makeDirectory, h.isDirectory]
  contentAt place := h.contentAt place

theorem follow_eq (place parts : List String) :
    others.follow place parts = files.follow place parts := by
  induction parts generalizing place with
  | nil => rfl
  | cons part rest ih =>
      rw [follow, follow, h.isDirectory, h.contentAt, h.here]
      cases enter files.here place part with
      | error obstacle => rfl
      | ok next => simp only [ih]

theorem placeOf_eq (path : String) : others.placeOf path = files.placeOf path := by
  unfold placeOf
  rw [h.follow_eq, h.here]

theorem targetAt_eq (place parts : List String) :
    others.targetAt place parts = files.targetAt place parts := by
  cases parts with
  | nil => rfl
  | cons last front => simp only [targetAt, h.follow_eq, h.isDirectory, h.contentAt, h.here]

theorem target_eq (path : String) : others.target path = files.target path := by
  unfold target
  simp only [h.targetAt_eq, h.here]

theorem makeAlong (place parts : List String) :
    SameShape (files.makeAlong place parts).1 (others.makeAlong place parts).1 ∧
      (others.makeAlong place parts).2 = (files.makeAlong place parts).2 := by
  induction parts generalizing files others place with
  | nil => exact ⟨h, rfl⟩
  | cons part rest ih =>
      rw [Files.makeAlong, Files.makeAlong, h.here]
      cases enter files.here place part with
      | error obstacle => exact ⟨h, rfl⟩
      | ok next =>
          simp only [h.isDirectory, h.contentAt]
          split
          · exact ih h next
          · split
            · exact ⟨h, rfl⟩
            · exact ih (h.makeDirectory next) next

theorem writeFault_eq (path : String) : others.writeFault path = files.writeFault path := by
  obtain ⟨hmade, hobstacle⟩ :=
    h.makeAlong (start files.here path) (stepsOf path).dropLast
  unfold writeFault write
  rw [h.here]
  generalize files.makeAlong (start files.here path) (stepsOf path).dropLast = x,
    others.makeAlong (start files.here path) (stepsOf path).dropLast = y at hmade hobstacle ⊢
  obtain ⟨made, obstacle⟩ := x
  obtain ⟨made', obstacle'⟩ := y
  obtain rfl : obstacle' = obstacle := hobstacle
  cases obstacle' with
  | some obstacle => rfl
  | none =>
      simp only [hmade.target_eq]
      cases made.target path <;> rfl

end SameShape

/-- Another content of a file is not seen at a path that leads to another place. -/
theorem state_writeAt {files : Files} {place : List String}
    (hfile : (files.contentAt place).isSome = true) (bytes : List UInt8) {path : String}
    (hpath : files.placeOf path ≠ .ok place) :
    (files.writeAt place bytes).state path = files.state path := by
  have hshape := sameShape_writeAt hfile bytes
  unfold state
  rw [hshape.placeOf_eq]
  cases hplace : files.placeOf path with
  | error obstacle => cases obstacle <;> rfl
  | ok other =>
      have hother : other ≠ place := by
        rintro rfl
        exact hpath hplace
      simp only [contentAt_write, if_neg hother, hshape.isDirectory]

end Files

/-- **A call that reads the standard input does not see what another file holds.** -/
theorem seesAlike_writeAt {files : Files} {place : List String} {call : Call}
    (hfile : (files.contentAt place).isSome = true)
    (hexpected : files.placeOf call.expected ≠ .ok place)
    (hoptions : ∀ path ∈ call.optionsFile, files.placeOf path ≠ .ok place)
    (bytes input input' : List UInt8) :
    call.SeesAlike (files.world input) ((files.writeAt place bytes).world input') where
  expected := Files.state_writeAt hfile bytes hexpected
  options path hpath := Files.state_writeAt hfile bytes (hoptions path hpath)
  writeFault := (Files.sameShape_writeAt hfile bytes).writeFault_eq call.expected

/-! ## The standard input and a file -/

/-- **The standard input and a file are the same source.**  A call that gets the actual document
from a file and the call that gets the same bytes on the standard input end with the same exit
and the same output, and write the same text to the same file; unless they fail, their notes are
the same too.  The second call may be made in another world, as long as it sees the same expected
document and the same options there. -/
theorem run_onInput {w w' : World} {call : Call} {bytes : List UInt8}
    (hactual : w.file call.actual = .content bytes) (hname : call.actual ≠ inputName)
    (hinput : w'.input = bytes) (hsees : call.SeesAlike w w') (p : Report.Palette) :
    let fromFile := run w call p
    let fromInput := run w' call.onInput p
    fromInput.exit = fromFile.exit ∧ fromInput.output = fromFile.output ∧
      fromInput.written = fromFile.written ∧
      (∀ files, fromInput.applyTo files = fromFile.applyTo files) ∧
      (fromFile.exit ≠ 2 → fromInput = fromFile) := by
  have hattempt := attempt_onInput (p := p) hactual hname hinput hsees
  intro fromFile fromInput
  simp only [fromFile, fromInput, run]
  generalize attempt w' call.onInput p = x, attempt w call p = y at hattempt ⊢
  cases hattempt with
  | ok outcome => exact ⟨rfl, rfl, rfl, fun _ => rfl, fun _ => rfl⟩
  | error f f' => exact ⟨rfl, rfl, rfl, fun _ => rfl, fun hexit => absurd rfl hexit⟩

/-- The actual document comes in on the standard input while its file, which is named from the
root, holds something else. -/
theorem run_onInput_changed :
    let files : Files := {
      entries := [(["e.json"], utf8 "1"), (["a.json"], utf8 "2"), (["o.json"], utf8 "\x7b\x7d")] }
    let others := files.writeAt ["a.json"] (utf8 "3")
    let call : Call := {
      format := .json, expected := "e.json", actual := "/work/a.json", options := {},
      optionsFile := some "o.json", update := false, quiet := false, verbose := false,
      noColor := false, sizeLimit := 2 }
    files.state call.actual = .content (utf8 "2") ∧ call.actual ≠ inputName ∧
      call.SeesAlike (files.world []) (others.world (utf8 "2")) ∧
      (run (files.world []) call {}).exit = 1 ∧
      run (others.world (utf8 "2")) call.onInput {} = run (files.world []) call {} := by
  intro files others call
  have hactual : (files.world []).file call.actual = .content (utf8 "2") := by decide +kernel
  have hname : call.actual ≠ inputName := by decide
  have hinput : (others.world (utf8 "2")).input = utf8 "2" := rfl
  have hfile : (files.contentAt ["a.json"]).isSome = true := by decide
  have hexpected : files.placeOf call.expected ≠ .ok ["a.json"] := by decide +kernel
  have hoptions : ∀ path ∈ call.optionsFile, files.placeOf path ≠ .ok ["a.json"] := by
    rintro path ⟨⟩
    decide +kernel
  have hsees : call.SeesAlike (files.world []) (others.world (utf8 "2")) :=
    seesAlike_writeAt hfile hexpected hoptions _ _ _
  have hexit : (run (files.world []) call {}).exit = 1 := by decide +kernel
  obtain ⟨-, -, -, -, hsame⟩ := run_onInput hactual hname hinput hsees {}
  exact ⟨hactual, hname, hsees, hexit, hsame (by rw [hexit]; decide)⟩

end Expectation.Command
