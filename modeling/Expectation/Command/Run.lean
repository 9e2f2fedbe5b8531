import Expectation.Command.Arguments
import Expectation.Command.Files
import Expectation.Html.Check
import Expectation.Json.Check
import Expectation.Json.Update

/-!
# Running the command

A run reads the actual and the expected document and either compares them or
brings the expected one up to date. It is a function of the call and of what
can be read, and says what is printed, how the command ends, and which file is
written. At most one file is written, and only at the end.

The command ends with 0 when the documents agree or the expected one is up to
date, with 1 when they differ, and with 2 when something could not be read.
-/

namespace Expectation.Command

/-! ## Inputs and results -/

/-- What a run can read. -/
structure World where
  /-- What a path leads to. -/
  file : String → FileState
  /-- Why a file cannot be written at a path, if so. -/
  writeFault : String → Option String
  /-- The standard input. -/
  input : List UInt8

/-- The result of a run. -/
structure Outcome where
  exit : Nat
  output : String := ""
  errors : String := ""
  /-- The path and the text of the file to write. If it cannot be written, the directories
  on the way to it are made all the same. -/
  written : Option (String × String) := none
  deriving DecidableEq, Repr

/-- Why a run fails. -/
inductive Failure where
  | fileMissing (path : String)
  | expectedMissing (path : String)
  /-- A file exceeds the limit. The size of the standard input is not known. -/
  | tooLarge (source : String) (size : Option Nat) (limit : Nat)
  | encoding (source : String) (offset : Nat)
  | unreadable (source reason : String)
  | unwritable (path reason : String)
  | document (context : String) (fault : DocumentError)
  | options (path : String) (fault : Json.Located)
  deriving DecidableEq, Repr

/-- The wording of a failure. -/
def Failure.message : Failure → String
  | .fileMissing path => "error: file not found: " ++ path
  | .expectedMissing path =>
    "error: expected file does not exist: " ++ path ++ " (run with --update to create it)"
  | .tooLarge source (some size) limit =>
    "error: file too large: " ++ source ++ " is " ++ toString size ++ " bytes, limit is " ++
      toString limit ++ " bytes"
  | .tooLarge source none limit =>
    "error: file too large: " ++ source ++ " exceeded limit of " ++ toString limit ++ " bytes"
  | .encoding source offset =>
    "error: invalid UTF-8 in " ++ source ++ ": first invalid byte at offset " ++ toString offset
  | .unreadable source reason => "error: I/O error on " ++ source ++ ": " ++ reason
  | .unwritable path reason => "error: failed to write " ++ path ++ ": " ++ reason
  | .document context fault => "error: " ++ context ++ ": " ++ fault.message
  | .options path fault => "error: options file " ++ path ++ ": " ++ fault.message

/-- A failed run. -/
def Failure.outcome (f : Failure) : Outcome := { exit := 2, errors := f.message ++ "\n" }

/-! ## Reading -/

/-- The text of bytes from a source. -/
def textOf (source : String) (bytes : List UInt8) : Except Failure String :=
  match Text.decode bytes with
  | .ok text => .ok text
  | .error (offset, _) => .error (.encoding source offset)

/-- The text of a file within the size limit. -/
def readFile (w : World) (limit : Nat) (path : String) : Except Failure String :=
  match w.file path with
  | .missing => .error (.fileMissing path)
  | .unreadable size reason =>
    .error (if limit < size then .tooLarge path (some size) limit else .unreadable path reason)
  | .content bytes =>
    if limit < bytes.length then .error (.tooLarge path (some bytes.length) limit)
    else textOf path bytes

/-- The name that stands for the standard input. -/
def inputName : String := "-"

/-- What a stream gives if no more than `limit` bytes are taken of it, unless it has more. How
long it is cannot be asked, so one more byte is tried when as many have come as may be taken. -/
def readCapped (limit : Nat) (stream : List UInt8) : Option (List UInt8) :=
  let taken := stream.take limit
  if taken.length = limit && (stream.drop limit).head?.isSome then none else some taken

/-- The text of the actual document: a file, or the standard input. -/
def readSource (w : World) (limit : Nat) (source : String) : Except Failure String :=
  if source = inputName then
    match readCapped limit w.input with
    | none => .error (.tooLarge source none limit)
    | some bytes => textOf source bytes
  else readFile w limit source

/-- The text of the expected document, if there is one. -/
def readExisting (w : World) (limit : Nat) (path : String) : Except Failure (Option String) :=
  match readFile w limit path with
  | .ok text => .ok (some text)
  | .error (.fileMissing _) => .ok none
  | .error f => .error f

/-- The options of a call: those of the options file with the settings on top. -/
def optionsFor (w : World) (call : Call) : Except Failure Options :=
  match call.optionsFile with
  | none => .ok call.options
  | some path =>
    match readFile w call.sizeLimit path with
    | .error f => .error f
    | .ok text =>
      match Options.ofText text with
      | .ok o => .ok (o.extend call.options)
      | .error fault => .error (.options path fault)

/-! ## Comparing and updating -/

/-- The outcome of a comparison: what is printed for a verdict. -/
def report (quiet : Bool) (v : Verdict) : Outcome :=
  if v.isMatch then { exit := 0 }
  else
    { exit := 1
      output := v.inline.getD "" ++ if quiet then "" else "\n" ++ v.summary }

/-- Writes the expected document, with a note about it. -/
def writeOut (w : World) (quiet : Bool) (path text note : String) : Outcome :=
  let outcome : Outcome :=
    match w.writeFault path with
    | some reason => (Failure.unwritable path reason).outcome
    | none => { exit := 0, errors := if quiet then "" else note }
  { outcome with written := some (path, text) }

/-- The note about a new document. -/
def createdNote (path : String) : String := "created " ++ path ++ "\n"

/-- The note about a document that was brought up to date. -/
def updatedNote (format : Format) (path : String) (ds : List Difference) : String :=
  "updated " ++ path ++ "\n\n" ++ Report.listing format ds ++ "\n"

/-- The wording for documents of a format that are compared. -/
def compareContext (call : Call) : String :=
  match call.format with
  | .json => call.actual ++ " against " ++ call.expected
  | .html => call.expected

/-- The text of a new expected document. -/
def initialText (call : Call) (actual : String) : Except Failure String :=
  match call.format with
  | .json =>
    match Json.readActualText actual with
    | .error e => .error (.document call.actual e)
    | .ok v => .ok (Json.initialText v)
  | .html =>
    match Html.readActualText actual with
    | .error e => .error (.document call.actual e)
    | .ok n => .ok n.expectedText

/-- The differences between two documents, sorted, and the text that brings the
expected one up to date. -/
def revision (call : Call) (o : Options) (expected actual : String) :
    Except Failure (List Difference × String) :=
  match call.format with
  | .json =>
    match Json.readExpected expected, Json.readActualText actual with
    | .error e, _ => .error (.document call.expected e)
    | .ok _, .error e => .error (.document call.actual e)
    | .ok e, .ok a =>
      .ok (Difference.sort (Json.compare o.json e.root Json.rootPath a), Json.updatedText e.root a)
  | .html =>
    match Html.readExpected expected, Html.readActualText actual with
    | .error e, _ => .error (.document call.expected e)
    | .ok _, .error e => .error (.document call.actual e)
    | .ok e, .ok a => .ok (Difference.sort (Html.compare o.html e.root a), a.expectedText)

/-- The verdict on two documents. -/
def verdict (call : Call) (o : Options) (p : Report.Palette) (expected actual : String) :
    Except Failure Verdict :=
  let checked := match call.format with
    | .json => Json.checkText expected actual o.json p
    | .html => Html.checkText expected actual o.html p
  match checked with
  | .ok v => .ok v
  | .error e => .error (.document (compareContext call) e)

/-- Creates the expected document. -/
def create (w : World) (call : Call) (actual : String) : Except Failure Outcome :=
  if !call.update then .error (.expectedMissing call.expected)
  else
    match initialText call actual with
    | .error f => .error f
    | .ok text => .ok (writeOut w call.quiet call.expected text (createdNote call.expected))

/-- Compares the documents. -/
def compareDocuments (call : Call) (o : Options) (p : Report.Palette) (expected actual : String) :
    Except Failure Outcome :=
  (verdict call o p expected actual).map (report call.quiet)

/-- Brings the expected document up to date. -/
def updateDocument (w : World) (call : Call) (o : Options) (expected actual : String) :
    Except Failure Outcome :=
  match revision call o expected actual with
  | .error f => .error f
  | .ok ([], _) => .ok { exit := 0 }
  | .ok (ds, text) =>
    .ok (writeOut w call.quiet call.expected text (updatedNote call.format call.expected ds))

/-- What a call does. -/
def attempt (w : World) (call : Call) (p : Report.Palette) : Except Failure Outcome :=
  match optionsFor w call with
  | .error f => .error f
  | .ok o =>
    match readSource w call.sizeLimit call.actual with
    | .error f => .error f
    | .ok actual =>
      match readExisting w call.sizeLimit call.expected with
      | .error f => .error f
      | .ok none => create w call actual
      | .ok (some expected) =>
        if call.update then updateDocument w call o expected actual
        else compareDocuments call o p expected actual

/-- The outcome of a call. -/
def run (w : World) (call : Call) (p : Report.Palette) : Outcome :=
  match attempt w call p with
  | .ok outcome => outcome
  | .error f => f.outcome

/-! ## The whole command -/

/-- The name and the version of the command. -/
def versionText : String := "docmatch 0.1.0\n"

/-- How the command is called. -/
def usageText : String :=
  "Usage: docmatch [SETTINGS] <json|html> [SETTINGS] <EXPECTED> <ACTUAL>\n\n" ++
    "Settings:\n" ++
    String.join ((generalSettings ++ jsonSettings ++ htmlSettings).map fun s =>
      "  --" ++ s.name ++ (if s.kind = .flag then "" else " <VALUE>") ++ "\n")

/-- The outcome when nothing is compared. -/
def Stop.outcome : Stop → Outcome
  | .usage => { exit := 2, errors := usageText }
  | .help => { exit := 0, output := usageText }
  | .version => { exit := 0, output := versionText }

/-- The outcome of the command for arguments and variables. -/
def execute (w : World) (arguments : List String) (env : Environment) : Outcome :=
  match Call.ofArguments arguments env with
  | .error stop => stop.outcome
  | .ok call => run w call (paletteOf call env)

end Expectation.Command
