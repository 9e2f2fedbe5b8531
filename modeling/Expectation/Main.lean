import Expectation.Command.Run

/-!
# The program

The outer layer of the command: it fetches what the run may read, prints what
the run says, and writes the file that the run names.
-/

namespace Expectation.Main

open Command

/-- What a path leads to on disk. -/
def fileState (path : String) : IO FileState := do
  try
    let bytes ← IO.FS.readBinFile path
    return .content bytes.toList
  catch e =>
    match e with
    | .noFileOrDirectory .. => return .missing
    | e => return .unreadable 0 (toString e)

/-- Everything that can be read from a stream. -/
partial def readAll (stream : IO.FS.Stream) (bytes : ByteArray) : IO ByteArray := do
  let chunk ← stream.read 65536
  if chunk.isEmpty then return bytes else readAll stream (bytes ++ chunk)

/-- The variables of the environment that count. -/
def environment : IO Environment := do
  let names := ["DOCMATCH_UPDATE", "DOCMATCH_MAX_FILE_SIZE", "NO_COLOR", "FORCE_COLOR"]
  names.filterMapM fun name => do return (← IO.getEnv name).map fun value => (name, value)

/-- What a call can read. -/
def worldFor (call : Call) : IO World := do
  let paths := call.optionsFile.toList ++ [call.expected, call.actual]
  let states ← paths.mapM fun path => do return (path, ← fileState path)
  let input ← if call.actual = inputName then readAll (← IO.getStdin) .empty else pure .empty
  return {
    file := fun path => ((states.find? (·.1 == path)).map (·.2)).getD .missing
    writeFault := fun _ => none
    input := input.toList }

/-- The directory of a path. -/
def directoryOf (path : String) : String :=
  String.ofList ((path.toList.reverse.dropWhile (· != '/')).drop 1).reverse

/-- Writes a file and the directories it is in. -/
def writeFile (path text : String) : IO Unit := do
  let directory := directoryOf path
  if !directory.isEmpty then IO.FS.createDirAll directory
  IO.FS.writeFile path text

/-- Prints an outcome and writes its file. -/
def finish (outcome : Outcome) : IO UInt32 := do
  if let some (path, text) := outcome.written then
    try writeFile path text
    catch e =>
      IO.eprint (Failure.unwritable path (toString e)).outcome.errors
      return 2
  IO.print outcome.output
  IO.eprint outcome.errors
  return UInt32.ofNat outcome.exit

end Expectation.Main

open Expectation Command in
def main (arguments : List String) : IO UInt32 := do
  let env ← Main.environment
  match Call.ofArguments arguments env with
  | .error stop => Main.finish stop.outcome
  | .ok call => Main.finish (run (← Main.worldFor call) call (paletteOf call env))
