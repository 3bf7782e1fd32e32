import Std.Time.Zoned
import Runbook.CommandLine.Program
/-! The program on the command line. It brings in the files below the working directory that its
arguments mention, and those that these files mention in turn; waiting passes on the clock of
the run alone. -/
namespace Runbook.Program

/-- A path and the directories above it. -/
def withParents (path : String) : List String :=
  let parts := FileTree.components path
  (List.range parts.length).map fun n => String.intercalate "/" (parts.take (n + 1))

/-- The relative paths that may be meant by a text: what stands between blanks and signs of
assignment. -/
def mentioned (text : String) : List String :=
  let isCut (c : Char) := Text.isBlank c || c == '=' || c == ':' || c == '"'
  let words := (Text.cut isCut text.toList).map String.ofList
  (words.filter fun word => !word.isEmpty && !word.startsWith "/").flatMap withParents

/-- Brings in one path, and gives the text that was found there. -/
def bring (files : FileTree) (path : String) : IO (FileTree × String) := do
  try
    let content := (← IO.FS.readBinFile path).toList
    return (files.place path (some content), Text.ofBytesLossy content)
  catch
    | .inappropriateType .. => return (files.place path none, "")
    | _ => return (files, "")

/-- Brings in no more than `bound` paths, each of them once. -/
def bringAll (bound : Nat) (files : FileTree) (seen : List String) (paths : List String) :
    IO FileTree :=
  match bound, paths with
  | 0, _ | _, [] => return files
  | bound + 1, path :: rest => do
    if seen.contains path then bringAll bound files seen rest
    else
      let (files, text) ← bring files path
      bringAll bound files (path :: seen) (rest ++ mentioned text)

/-- Writes what the run has added to the files. -/
def writeBack (before after : FileTree) : IO Unit := do
  for (path, content?) in after.listing do
    if let some content := content? then
      if (before.read path).toOption ≠ some content then
        IO.FS.writeBinFile path ⟨content.toArray⟩

/-- The variables that the program looks at. -/
def givenEnvironment : IO (Table String) := do
  let names := logVariable :: Settings.names.map fun name => Settings.beginning ++ name.toUpper
  let found ← names.mapM fun name => return (← IO.getEnv name).map fun value => (name, value)
  return .ofList (found.filterMap id)

/-- The clock at the start of the program. -/
def currentClock : IO Clock := do
  let now ← Std.Time.PlainDateTime.now
  return ⟨now.toWallTime.toMilliseconds.toInt.toNat, 0⟩

end Runbook.Program

def main (args : List String) : IO UInt32 := do
  let files ← Runbook.Program.bringAll 100000 (.bare ["work"]) []
    (Runbook.Program.envFileName :: args.flatMap Runbook.Program.mentioned)
  let environment ← Runbook.Program.givenEnvironment
  let clock ← Runbook.Program.currentClock
  match Runbook.Program.run .standard clock files environment args with
  | none => return 1
  | some outcome =>
    IO.print outcome.stdout
    IO.eprint outcome.stderr
    Runbook.Program.writeBack files outcome.files
    return UInt32.ofNat outcome.exit
