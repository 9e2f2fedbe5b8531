import Expectation.Command.Run
import Expectation.Proofs.Command.Writing
import Expectation.Proofs.SelfCheck

/-!
# Comparing and updating

A call compares two documents, or it brings the expected one up to date.  Both
modes read the same inputs in the same order; from there on they go different
ways, the one through the check of two documents, the other through the
comparison of their trees.  `Modes` lists what the two can come to side by side,
and everything else is read off that list: they fail together, they agree
together, and where the one reports differences the other writes the expected
document and lists the same differences.

Nothing is written before everything has been read, so a run that fails leaves
all files as they were.

## Main results

* `verdict_eq_ok_iff`: the verdict of a run is that of the check of the bytes.
* `revision_of_verdict`: the differences of an update are those of the report.
* `modes_run`: what the two modes come to.
* `run_comparing_updating`: how their exits, files and listings are related.
-/

namespace Expectation

open Text (utf8)

/-! ## Checking the bytes of a document -/

/-- A JSON text is checked like its bytes. -/
theorem Json.check_utf8 (expected actual : String) (o : Json.Options) (p : Report.Palette) :
    Json.check expected (utf8 actual) o p = Json.checkText expected actual o p := by
  have hread : Json.readActual (utf8 actual) = Json.readActualText actual := by
    rw [Json.readActual, Json.readBytes_utf8]
    rfl
  rw [Json.check, Json.checkText, hread]

theorem Html.readActual_utf8 (actual : String) :
    Html.readActual (utf8 actual) = Html.readActualText actual := by
  unfold Html.readActual
  simp only [Text.decode_utf8]

/-- The text of a page is checked like its bytes. -/
theorem Html.check_utf8 (expected actual : String) (o : Html.Options) (p : Report.Palette) :
    Html.check expected (utf8 actual) o p = Html.checkText expected actual o p := by
  unfold Html.check Html.checkText
  simp only [Html.readActual_utf8]

namespace Command

/-! ## The two modes of a call -/

/-- The call without its wish to update. -/
def Call.comparing (call : Call) : Call := { call with update := false }

/-- The call with the wish to update. -/
def Call.updating (call : Call) : Call := { call with update := true }

/-- What both modes read: the options, the actual document, and the expected one
if there is one. -/
def inputsOf (w : World) (call : Call) : Except Failure (Options × String × Option String) :=
  match optionsFor w call with
  | .error f => .error f
  | .ok o =>
    match readSource w call.sizeLimit call.actual with
    | .error f => .error f
    | .ok actual =>
      match readExisting w call.sizeLimit call.expected with
      | .error f => .error f
      | .ok expected => .ok (o, actual, expected)

@[simp] theorem inputsOf_comparing (w : World) (call : Call) :
    inputsOf w call.comparing = inputsOf w call := rfl

@[simp] theorem inputsOf_updating (w : World) (call : Call) :
    inputsOf w call.updating = inputsOf w call := rfl

/-- A run goes by what it has read. -/
theorem attempt_eq (w : World) (call : Call) (p : Report.Palette) :
    attempt w call p =
      match inputsOf w call with
      | .error f => .error f
      | .ok (_, actual, none) => create w call actual
      | .ok (o, actual, some expected) =>
        if call.update then updateDocument w call o expected actual
        else compareDocuments call o p expected actual := by
  unfold attempt inputsOf
  cases optionsFor w call with
  | error f => rfl
  | ok o =>
      cases readSource w call.sizeLimit call.actual with
      | error f => rfl
      | ok actual =>
          cases readExisting w call.sizeLimit call.expected with
          | error f => rfl
          | ok expected => cases expected <;> rfl

/-- There is no expected document exactly if nothing is at its path. -/
theorem readExisting_eq_none_iff (w : World) (limit : Nat) (path : String) :
    readExisting w limit path = .ok none ↔ w.file path = .missing := by
  unfold readExisting readFile textOf
  cases w.file path with
  | missing => simp
  | unreadable size reason => by_cases h : limit < size <;> simp [h]
  | content bytes =>
      by_cases h : limit < bytes.length
      · simp [h]
      · cases hdecode : Text.decode bytes with
        | error fault =>
            obtain ⟨offset, reason⟩ := fault
            simp [h, hdecode]
        | ok text => simp [h, hdecode]

theorem readExisting_of_inputsOf {w : World} {call : Call} {o : Options} {actual : String}
    {expected : Option String} (h : inputsOf w call = .ok (o, actual, expected)) :
    readExisting w call.sizeLimit call.expected = .ok expected := by
  unfold inputsOf at h
  cases ho : optionsFor w call with
  | error f => simp [ho] at h
  | ok o' =>
      cases ha : readSource w call.sizeLimit call.actual with
      | error f => simp [ho, ha] at h
      | ok actual' =>
          cases he : readExisting w call.sizeLimit call.expected with
          | error f => simp [ho, ha, he] at h
          | ok expected' => simp_all

/-! ## The two ways to the differences -/

/-- The check of two documents of a format. -/
def checkDocuments (format : Format) (o : Options) (p : Report.Palette) (expected : String)
    (actual : List UInt8) : Except DocumentError Verdict :=
  match format with
  | .json => Json.check expected actual o.json p
  | .html => Html.check expected actual o.html p

/-- **The verdict of a run** is that of the check of the bytes. -/
theorem verdict_eq_ok_iff {call : Call} {o : Options} {p : Report.Palette}
    {expected actual : String} {v : Verdict} :
    verdict call o p expected actual = .ok v ↔
      checkDocuments call.format o p expected (utf8 actual) = .ok v := by
  unfold verdict checkDocuments
  cases call.format with
  | json =>
      simp only [Json.check_utf8]
      cases Json.checkText expected actual o.json p <;> simp
  | html =>
      simp only [Html.check_utf8]
      cases Html.checkText expected actual o.html p <;> simp

/-- **An update comes to the differences of the report**, or neither comes to
any. -/
theorem revision_of_verdict (call : Call) (o : Options) (p : Report.Palette)
    (expected actual : String) :
    (∃ f f', verdict call o p expected actual = .error f ∧
      revision call o expected actual = .error f') ∨
    ∃ v text, verdict call o p expected actual = .ok v ∧
      revision call o expected actual = .ok (v.differences, text) ∧
      v.summary = Report.listing call.format v.differences := by
  unfold verdict revision
  -- the readers have to stay closed: both modes use them, and nothing else of them counts
  cases call.format with
  | json =>
      unfold Json.checkText
      generalize Json.readExpected expected = e
      generalize Json.readActualText actual = a
      cases e with
      | error e => exact .inl ⟨_, _, rfl, rfl⟩
      | ok e =>
          cases a with
          | error f => exact .inl ⟨_, _, rfl, rfl⟩
          | ok a =>
              have hdifferences : (Json.judge o.json p e.root a).differences =
                  Difference.sort (Json.compare o.json e.root Json.rootPath a) :=
                Verdict.differences_ofDifferences ..
              have hsummary : (Json.judge o.json p e.root a).summary = Report.listing .json
                  (Difference.sort (Json.compare o.json e.root Json.rootPath a)) :=
                Verdict.summary_ofDifferences ..
              refine .inr ⟨Json.judge o.json p e.root a, Json.updatedText e.root a, rfl, ?_, ?_⟩
              · rw [hdifferences]
              · rw [hdifferences, hsummary]
  | html =>
      unfold Html.checkText
      generalize Html.readExpected expected = e
      generalize Html.readActualText actual = a
      cases e with
      | error e => exact .inl ⟨_, _, rfl, rfl⟩
      | ok e =>
          cases a with
          | error f => exact .inl ⟨_, _, rfl, rfl⟩
          | ok a =>
              have hdifferences : (Html.judge o.html p e.root a).differences =
                  Difference.sort (Html.compare o.html e.root a) :=
                Verdict.differences_ofDifferences ..
              have hsummary : (Html.judge o.html p e.root a).summary = Report.listing .html
                  (Difference.sort (Html.compare o.html e.root a)) :=
                Verdict.summary_ofDifferences ..
              refine .inr ⟨Html.judge o.html p e.root a, a.expectedText, rfl, ?_, ?_⟩
              · rw [hdifferences]
              · rw [hdifferences, hsummary]

/-! ## What the modes come to -/

/-- The documents of a call can be read, and their check gives a report. -/
def Reports (w : World) (call : Call) (p : Report.Palette) (v : Verdict) : Prop :=
  ∃ o actual expected, inputsOf w call = .ok (o, actual, some expected) ∧
    checkDocuments call.format o p expected (utf8 actual) = .ok v

/-- What a comparison and an update come to side by side. -/
inductive Modes (w : World) (call : Call) (p : Report.Palette) : Outcome → Outcome → Prop where
  /-- Something cannot be read, or there is nothing to compare with. -/
  | failed (f f' : Failure) : Modes w call p f.outcome f'.outcome
  /-- There is no expected document yet. -/
  | created (text : String) (hmissing : w.file call.expected = .missing) :
      Modes w call p (Failure.expectedMissing call.expected).outcome
        (writeOut w call.quiet call.expected text (createdNote call.expected))
  /-- The documents agree. -/
  | agreed (v : Verdict) (hexists : w.file call.expected ≠ .missing)
      (hreport : Reports w call p v) (hmatch : v.isMatch = true) :
      Modes w call p { exit := 0 } { exit := 0 }
  /-- The documents differ. -/
  | differed (v : Verdict) (text : String) (hexists : w.file call.expected ≠ .missing)
      (hreport : Reports w call p v) (hmatch : v.isMatch = false)
      (hsummary : v.summary = Report.listing call.format v.differences) :
      Modes w call p (report call.quiet v)
        (writeOut w call.quiet call.expected text
          (updatedNote call.format call.expected v.differences))

/-- Whether a document is to be updated has no say in what its text is, nor in
what is found between two documents. -/
theorem initialText_updating (call : Call) (actual : String) :
    initialText call.updating actual = initialText call actual := by
  unfold initialText Call.updating
  generalize Html.readActualText actual = page
  rfl

theorem revision_updating (call : Call) (o : Options) (expected actual : String) :
    revision call.updating o expected actual = revision call o expected actual := by
  unfold revision Call.updating
  generalize Html.readExpected expected = e, Html.readActualText actual = a
  rfl

theorem verdict_comparing (call : Call) (o : Options) (p : Report.Palette)
    (expected actual : String) :
    verdict call.comparing o p expected actual = verdict call o p expected actual := by
  unfold verdict Call.comparing
  generalize Html.checkText expected actual o.html p = checked
  rfl

section Runs

variable {w : World} {call : Call} {p : Report.Palette} {o : Options} {actual : String}

/-- A call that cannot read its inputs fails in both modes. -/
theorem modes_of_unread {f : Failure} (h : inputsOf w call = .error f) :
    Modes w call p (run w call.comparing p) (run w call.updating p) := by
  have hcomparing : run w call.comparing p = f.outcome := by
    rw [run, attempt_eq, inputsOf_comparing, h]
  have hupdating : run w call.updating p = f.outcome := by
    rw [run, attempt_eq, inputsOf_updating, h]
  rw [hcomparing, hupdating]
  exact .failed f f

/-- A call without expected document fails, or creates it. -/
theorem modes_of_missing (h : inputsOf w call = .ok (o, actual, none)) :
    Modes w call p (run w call.comparing p) (run w call.updating p) := by
  have hmissing := (readExisting_eq_none_iff ..).mp (readExisting_of_inputsOf h)
  have hcomparing : run w call.comparing p =
      (Failure.expectedMissing call.expected).outcome := by
    rw [run, attempt_eq, inputsOf_comparing, h]
    rfl
  have hupdating : attempt w call.updating p = create w call.updating actual := by
    rw [attempt_eq, inputsOf_updating, h]
  rw [hcomparing, run, hupdating, create, initialText_updating]
  cases initialText call actual with
  | error f => exact .failed _ f
  | ok text => exact .created text hmissing

/-- A call with an expected document fails, agrees or differs in both modes. -/
theorem modes_of_existing {expected : String}
    (h : inputsOf w call = .ok (o, actual, some expected)) :
    Modes w call p (run w call.comparing p) (run w call.updating p) := by
  have hexists : w.file call.expected ≠ .missing := by
    intro hmissing
    have hnone := (readExisting_eq_none_iff w call.sizeLimit _).mpr hmissing
    rw [readExisting_of_inputsOf h] at hnone
    simp at hnone
  have hcomparing : attempt w call.comparing p =
      (verdict call o p expected actual).map (report call.quiet) := by
    rw [attempt_eq, inputsOf_comparing, h]
    exact congrArg (Except.map _) (verdict_comparing call o p expected actual)
  have hupdating : attempt w call.updating p =
      updateDocument w call.updating o expected actual := by
    rw [attempt_eq, inputsOf_updating, h]
    rfl
  rw [run, run, hcomparing, hupdating, updateDocument, revision_updating]
  rcases revision_of_verdict call o p expected actual with
    ⟨f, f', hverdict, hrevision⟩ | ⟨v, text, hverdict, hrevision, hsummary⟩
  · rw [hverdict, hrevision]
    exact .failed f f'
  · have hreport : Reports w call p v :=
      ⟨o, actual, expected, h, verdict_eq_ok_iff.mp hverdict⟩
    rw [hverdict, hrevision]
    cases hds : v.differences with
    | nil =>
        have hmatch : v.isMatch = true := by rw [Verdict.isMatch, hds, List.isEmpty_nil]
        have hagreed : report call.quiet v = { exit := 0 } := by rw [report, if_pos hmatch]
        show Modes w call p (report call.quiet v) _
        rw [hagreed]
        exact .agreed v hexists hreport hmatch
    | cons d ds =>
        have hmatch : v.isMatch = false := by rw [Verdict.isMatch, hds, List.isEmpty_cons]
        have hdiffered := Modes.differed (w := w) v text hexists hreport hmatch hsummary
        rw [hds] at hdiffered
        exact hdiffered

/-- **What the two modes come to.** -/
theorem modes_run (w : World) (call : Call) (p : Report.Palette) :
    Modes w call p (run w call.comparing p) (run w call.updating p) := by
  cases h : inputsOf w call with
  | error f => exact modes_of_unread h
  | ok inputs =>
      obtain ⟨o, actual, expected⟩ := inputs
      cases expected with
      | none => exact modes_of_missing h
      | some expected => exact modes_of_existing h

end Runs

/-! ## Files before and after -/

/-- What a run can read of files and of the standard input. -/
def Files.world (files : Files) (input : List UInt8) : World :=
  ⟨files.state, files.writeFault, input⟩

/-- The files after a run. -/
def Outcome.applyTo (outcome : Outcome) (files : Files) : Files :=
  match outcome.written with
  | none => files
  | some (path, text) => (files.write path (utf8 text)).1

@[simp] theorem Failure.outcome_exit (f : Failure) : f.outcome.exit = 2 := rfl

@[simp] theorem Failure.outcome_written (f : Failure) : f.outcome.written = none := rfl

@[simp] theorem Failure.applyTo_outcome (f : Failure) (files : Files) :
    f.outcome.applyTo files = files := rfl

theorem report_exit {v : Verdict} (h : v.isMatch = false) (quiet : Bool) :
    (report quiet v).exit = 1 := by
  simp [report, h]

@[simp] theorem applyTo_report (quiet : Bool) (v : Verdict) (files : Files) :
    (report quiet v).applyTo files = files := by
  unfold report
  split <;> rfl

theorem writeOut_of_writable {w : World} {path : String} (h : w.writeFault path = none)
    (quiet : Bool) (text note : String) :
    writeOut w quiet path text note =
      { exit := 0, errors := if quiet then "" else note, written := some (path, text) } := by
  simp [writeOut, h]

/-- What is compared was read from a file. -/
theorem Reports.content {w : World} {call : Call} {p : Report.Palette} {v : Verdict}
    (h : Reports w call p v) : ∃ bytes, w.file call.expected = .content bytes := by
  obtain ⟨o, actual, expected, hinputs, -⟩ := h
  have hread := readExisting_of_inputsOf hinputs
  unfold readExisting readFile at hread
  cases hfile : w.file call.expected with
  | missing => simp [hfile] at hread
  | unreadable size reason =>
      by_cases hsize : call.sizeLimit < size <;> simp [hfile, hsize] at hread
  | content bytes => exact ⟨bytes, rfl⟩

/-- **Comparing and updating go together**, and a run that fails leaves the files alone: if
the expected document can be written, a comparison never changes a file; if there is an
expected document, both modes fail together, a comparison finds differences exactly if an
update writes the expected document, with the same listing, and otherwise both end well and
write nothing; if there is none, a comparison fails, and an update fails or creates it. What
is written replaces the file at the path of the expected document and no other, and is read
at that path afterwards. -/
theorem run_comparing_updating (files : Files) (input : List UInt8) (call : Call)
    (p : Report.Palette) (hwrite : files.writeFault call.expected = none) :
    let compared := run (files.world input) call.comparing p
    let updated := run (files.world input) call.updating p
    compared.applyTo files = files ∧
    (files.state call.expected ≠ .missing →
      (updated.exit = 2 ↔ compared.exit = 2) ∧
      (updated.exit = 2 → updated.applyTo files = files) ∧
      (compared.exit = 1 ↔
        updated.exit = 0 ∧ ∃ text, updated.written = some (call.expected, text)) ∧
      (compared.exit = 1 → ∃ v text place, Reports (files.world input) call p v ∧
        compared = report call.quiet v ∧
        updated = {
          exit := 0
          errors := if call.quiet then ""
            else "updated " ++ call.expected ++ "\n\n" ++ v.summary ++ "\n"
          written := some (call.expected, text) } ∧
        files.placeOf call.expected = .ok place ∧
        (updated.applyTo files).placeOf call.expected = .ok place ∧
        files.Replaces place (utf8 text) (updated.applyTo files) ∧
        (updated.applyTo files).state call.expected = .content (utf8 text)) ∧
      (compared.exit ≠ 1 → compared.exit ≠ 2 →
        compared.exit = 0 ∧ updated.exit = 0 ∧ updated.applyTo files = files)) ∧
    (files.state call.expected = .missing →
      compared.exit = 2 ∧
      (updated.exit = 2 ∧ updated.applyTo files = files ∨
        updated.exit = 0 ∧ ∃ text place, updated.written = some (call.expected, text) ∧
          (updated.applyTo files).placeOf call.expected = .ok place ∧
          files.Replaces place (utf8 text) (updated.applyTo files) ∧
          (updated.applyTo files).state call.expected = .content (utf8 text))) := by
  intro compared updated
  have hmodes : Modes (files.world input) call p compared updated := modes_run ..
  generalize compared = compared, updated = updated at hmodes ⊢
  have hwritable : (files.world input).writeFault call.expected = none := hwrite
  cases hmodes with
  | failed f f' => simp
  | created text hmissing =>
      have hmissing : files.state call.expected = .missing := hmissing
      rw [writeOut_of_writable hwritable]
      obtain ⟨place, hplace, hreplaces⟩ := Files.replaces_write hwrite (utf8 text)
      refine ⟨rfl, fun hexists => absurd hmissing hexists, fun _ => ⟨rfl, .inr ⟨rfl, ?_⟩⟩⟩
      exact ⟨text, place, rfl, hplace, hreplaces, Files.state_of_replaces hplace hreplaces⟩
  | agreed v hexists hreport hmatch =>
      refine ⟨rfl, fun _ => ?_, fun hmissing => absurd hmissing hexists⟩
      simp [Outcome.applyTo]
  | differed v text hexists hreport hmatch hsummary =>
      rw [writeOut_of_writable hwritable, updatedNote, ← hsummary]
      have hexit := report_exit hmatch call.quiet
      obtain ⟨bytes, hcontent⟩ := hreport.content
      obtain ⟨place, hbefore⟩ := Files.placeOf_of_content hcontent
      obtain ⟨hplace, hreplaces⟩ :=
        Files.replaces_write_of_placeOf hwrite hbefore (utf8 text)
      refine ⟨applyTo_report .., fun _ => ⟨?_, ?_, ?_, fun _ => ?_, ?_⟩,
        fun hmissing => absurd hmissing hexists⟩
      · simp [hexit]
      · simp
      · simp [hexit]
      · exact ⟨v, text, place, hreport, rfl, rfl, hbefore, hplace, hreplaces,
          Files.state_of_replaces hplace hreplaces⟩
      · exact fun hne => absurd hexit hne

/-- An update replaces `1` by `2` in a file that is named from the root, and a creation adds
one in a directory that is not there yet. -/
theorem run_comparing_updating_changed :
    let files : Files := { entries := [(["e.json"], utf8 "1"), (["a.json"], utf8 "2")] }
    let call : Call := {
      format := .json, expected := "/work/e.json", actual := "a.json", options := {},
      optionsFile := none, update := false, quiet := false, verbose := false, noColor := false,
      sizeLimit := defaultSizeLimit }
    let creating : Call := { call with expected := "/new/e.json" }
    files.writeFault call.expected = none ∧ (run (files.world []) call.comparing {}).exit = 1 ∧
      (run (files.world []) call.updating {}).exit = 0 ∧
      (∃ text, (run (files.world []) call.updating {}).written = some ("/work/e.json", text)) ∧
      files.writeFault creating.expected = none ∧
      (run (files.world []) creating.comparing {}).exit = 2 ∧
      ∃ text, ((run (files.world []) creating.updating {}).applyTo files).state "/new/e.json" =
        .content (utf8 text) := by
  intro files call creating
  have hwrite : files.writeFault call.expected = none := by decide +kernel
  have hexists : files.state call.expected ≠ .missing := by decide +kernel
  have hexit : (run (files.world []) call.comparing {}).exit = 1 := by decide +kernel
  have hmodes := (run_comparing_updating files [] call {} hwrite).2.1 hexists
  obtain ⟨hended, hwritten⟩ := hmodes.2.2.1.mp hexit
  have hcreatable : files.writeFault creating.expected = none := by decide +kernel
  have hmissing : files.state creating.expected = .missing := by decide +kernel
  have hgood : (run (files.world []) creating.updating {}).exit ≠ 2 := by decide +kernel
  obtain ⟨hfailed, hcreated⟩ :=
    (run_comparing_updating files [] creating {} hcreatable).2.2 hmissing
  obtain ⟨-, text, -, -, -, -, hstate⟩ := hcreated.resolve_left fun h => hgood h.1
  exact ⟨hwrite, hexit, hended, hwritten, hcreatable, hfailed, text, hstate⟩

end Command

end Expectation
