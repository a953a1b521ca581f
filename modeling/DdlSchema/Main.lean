import DdlSchema.Command.Run
import DdlSchema.Report.Instant
import Std.Time.DateTime.Timestamp

/-! The program: it looks at the disk, runs the command, and prints. -/

set_option autoImplicit false

namespace DdlSchema.Program

open DdlSchema.Command

/-- An entry of a directory that stands for a whole path. -/
def entryAt (path : String) : IO.FS.DirEntry := ⟨path, ""⟩

def disk : Disk IO where
  isFile := fun path => do
    let entry := entryAt path
    return (← entry.root.pathExists) && !(← entry.root.isDir)
  isDirectory := fun path => (entryAt path).root.isDir
  entries := fun path => do
    let entry := entryAt (if path.isEmpty then "." else path)
    if ← entry.root.isDir then return (← entry.root.readDir).toList.map IO.FS.DirEntry.fileName
    else return []
  bytes := fun path => return (← IO.FS.readBinFile path).toList

def placeOf (path : String) : IO Place := do
  let entry := entryAt path
  if ← entry.root.isDir then return .isDirectory
  else match entry.root.parent with
    | none => return .writable
    | some parent =>
      if parent.toString.isEmpty || (← parent.isDir) then return .writable
      else if ← parent.pathExists then return .notADirectory
      else return .noDirectory

def now : IO String := do
  let instant ← Std.Time.Timestamp.now
  let nanoseconds := instant.toNanosecondsSinceUnixEpoch.toInt.toNat
  return Report.instantText (nanoseconds / 1000000000) (nanoseconds / 1000 % 1000000)

def crashMessage : Crash → String
  | .danglingMark => "list index out of range"
  | .unwritable .isDirectory => "Is a directory"
  | .unwritable .notADirectory => "Not a directory"
  | .unwritable _ => "No such file or directory"

def finish (output : Option String) (outcome : Outcome) : IO UInt32 := do
  IO.eprint outcome.stderr
  IO.print outcome.stdout
  match output, outcome.written with
  | some path, some text => IO.FS.writeFile path text
  | _, _ => pure ()
  match outcome.ending with
  | .exit code => return code.toUInt32
  | .crash reason =>
    IO.eprintln (crashMessage reason)
    return 1

def runWith (arguments : Arguments) : IO UInt32 := do
  let source ← disk.load arguments.source
  let output := arguments.outputPath?
  let place ← match output with
    | some path => placeOf path
    | none => pure .writable
  let isTerminal ← (← IO.getStderr).isTty
  finish output (execute arguments source place isTerminal (← now))

def helpText : String :=
  "usage: schemaflow parse --source SOURCE [--dialects DIALECTS] [--isolate-statements]\n" ++
    "    [--json-out FILE] [--summary] [--no-color] [--verbose] [--log-format text|json] [--version]\n"

/-- Does what the words of the command line ask for. -/
def run (words : List String) : IO UInt32 := do
  match interpret words with
  | .run arguments => runWith arguments
  | .version =>
    IO.print versionLine
    return 0
  | .help =>
    IO.print helpText
    return 0
  | .misuse problem => finish none (misuseOutcome problem)

end DdlSchema.Program

def main (words : List String) : IO UInt32 := DdlSchema.Program.run words
