import DdlSchema.Command.Wildcard
import DdlSchema.Text.Displayed
import DdlSchema.Text.Utf8

/-! Where a script comes from: a file, or the SQL files of a directory. The parts of a directory's
path may hold wildcards; it then stands for all directories that fit. -/

set_option autoImplicit false

namespace DdlSchema.Command

open DdlSchema.Text

/-- What stands at a path. The entries of a directory are the SQL files in and below it with their
paths; one without bytes is itself a directory. -/
inductive Source where
  | missing
  | file (bytes : List UInt8)
  | directory (entries : List (String × Option (List UInt8)))

inductive SourceProblem where
  | missing (path : String)
  | noFiles (path : String)
  | malformed (problem : Malformed)
  | directoryEntry (path : String)
  deriving DecidableEq, Repr

def SourceProblem.message : SourceProblem → String
  | .missing path => "Path not found: " ++ path
  | .noFiles path => "No .sql files found in directory: " ++ path
  | .malformed problem => problem.message
  | .directoryEntry path => "[Errno 21] Is a directory: " ++ displayedText path

/-- A path below a directory; the empty path is the working directory. -/
def joinPath (directory path : String) : String :=
  if directory.isEmpty || "/".toList.isSuffixOf directory.toList then directory ++ path
  else directory ++ "/" ++ path

structure Disk (m : Type → Type) where
  isFile : String → m Bool
  isDirectory : String → m Bool
  /-- The names in a directory; none where there is no directory. -/
  entries : String → m (List String)
  bytes : String → m (List UInt8)

namespace Disk

variable {m : Type → Type} [Monad m]

def descend (disk : Disk m) : Nat → String → m (List String)
  | 0, directory => return [directory]
  | depth + 1, directory => do
    let names := (← disk.entries directory).filter fun name => !isHiddenName name
    let paths ← (names.map (joinPath directory)).filterM disk.isDirectory
    return directory :: (← paths.mapM (disk.descend depth)).flatten

def deepest : Nat := 2048

/-- The directories that a part of a path leads to. Two stars stand for any number of parts. -/
def follow (disk : Disk m) (part directory : String) : m (List String) := do
  if part.isEmpty then return [directory]
  else if part = "**" then disk.descend deepest directory
  else if hasWildcard part then
    let names := (← disk.entries directory).filter (partFits part)
    (names.map (joinPath directory)).filterM disk.isDirectory
  else return [joinPath directory part]

def followAll (disk : Disk m) : List String → List String → m (List String)
  | [], directories => return directories
  | part :: rest, directories => do
    disk.followAll rest (← directories.mapM (disk.follow part)).flatten

def directoriesOf (disk : Disk m) (path : String) : m (List String) := do
  let start := if "/".toList.isPrefixOf path.toList then "/" else ""
  let named ← if hasWildcard path then disk.followAll (path.splitOn "/") [start] else pure [path]
  return (← named.mapM (disk.descend deepest)).flatten

def scriptsIn (disk : Disk m) (directory : String) :
    m (List (String × Option (List UInt8))) := do
  let names := (← disk.entries directory).filter (partFits "*.sql")
  (names.map (joinPath directory)).mapM fun path => do
    if ← disk.isDirectory path then return (path, none)
    else return (path, some (← disk.bytes path))

def load (disk : Disk m) (path : String) : m Source := do
  if path.isEmpty then return .missing
  else if ← disk.isFile path then return .file (← disk.bytes path)
  else if ← disk.isDirectory path then
    return .directory (← (← disk.directoriesOf path).mapM disk.scriptsIn).flatten
  else return .missing

end Disk

def decodeText (bytes : List UInt8) : Except SourceProblem (List Char) :=
  match decodeUtf8 bytes with
  | .ok text => .ok (unifyBreaks text)
  | .error problem => .error (.malformed problem)

def readEntry (entry : String × Option (List UInt8)) : Except SourceProblem (List Char) :=
  match entry.2 with
  | some bytes => decodeText bytes
  | none => .error (.directoryEntry entry.1)

def Source.read (path : String) : Source → Except SourceProblem (List Char)
  | .missing => .error (.missing path)
  | .file bytes => decodeText bytes
  | .directory entries =>
    if entries.isEmpty then .error (.noFiles path)
    else
      let sorted := entries.mergeSort fun left right => left.1 ≤ right.1
      (sorted.mapM readEntry).map (['\n'].intercalate ·)

end DdlSchema.Command
