/-
The program.

Files named on the command line are read, the command runs on them, and what it has
written is put in place.  Documents are put out as their outlines, in JSON.
-/
import Paperwork.Command.Run
import Std.Time.Zoned

namespace Paperwork.Program

/-- What a file holds, if it is there. -/
def load (name : String) : IO (Option FileContent) := do
  try
    let bytes ← IO.FS.readBinFile name
    return some (match String.fromUTF8? bytes with
      | some text => .text text
      | none => .bytes bytes.toList)
  catch _ => return none

/-- The files that the words of a command line name. -/
def loadAll (words : List String) : IO Files := do
  let names := words ++ words.filterMap fun word => (splitWord word).2
  names.filterMapM fun name => do
    return (← load name).map fun content => (FileName.ofText name, content)

/-- The names of the variables that a run can depend on. -/
def variableNames (words : List String) (files : Files) : List String :=
  let mentioned :=
    match readWords Command.commonOptions false words with
    | .ok given =>
      match given.value? Command.definitionsOption with
      | some name => ((files.readText name).toOption.map Definition.mentionedNames).getD []
      | none => []
    | .error _ => []
  Settings.variables.map Prod.fst ++ mentioned

/-- The environment as far as a run can depend on it. -/
def loadEnvironment (names : List String) : IO Environment :=
  names.filterMapM fun name => do
    return (← IO.getEnv name).map fun value => (name, value)

/-- The bytes that a file is put out as. -/
def written : FileContent → ByteArray
  | .text text => text.toUTF8
  | .bytes bytes => ⟨bytes.toArray⟩
  | .document content => (String.ofList (Json.indented 0 content.toValue)).toUTF8

/-- Puts a file in place. -/
def save (path : FileName) (content : FileContent) : IO Unit := do
  unless path.dropLast.isEmpty do
    IO.FS.createDirAll (String.intercalate "/" path.dropLast)
  IO.FS.writeBinFile (String.intercalate "/" path) (written content)

/-- The present time. -/
def now : IO Moment := do
  let t ← Std.Time.PlainDateTime.now
  return ⟨t.year.toNat, t.month.val.toNat, t.day.val.toNat, t.hour.val.toNat, t.minute.val.toNat,
    t.second.val.toNat⟩

/-- The line that tells a notice. -/
def noticeLine (notice : Notice) : String :=
  notice.message fun faults => String.intercalate "; " (faults.map Fault.text)

end Paperwork.Program

open Paperwork Paperwork.Program in
/-- Runs a command line. -/
def main (words : List String) : IO UInt32 := do
  let files ← loadAll words
  let environment ← loadEnvironment (variableNames words files)
  let finished := Command.run environment (← now) words files
  for notice in finished.notices do
    IO.eprintln (noticeLine notice)
  let (ending, after) := finished.value
  for (path, content) in after do
    unless files.lookup path = some content do
      save path content
  match ending with
  | .done output => IO.print output
  | .broken cause => IO.eprintln cause.message
  | ending => IO.eprint ending.output
  return ending.exitCode.toUInt32
