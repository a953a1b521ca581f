import DdlSchema.Command.Arguments
import DdlSchema.Command.Source
import DdlSchema.Report.Document
import DdlSchema.Report.Summary
import DdlSchema.Report.Trace

/-! What the program does with its arguments, as a function of what it finds on the disk. -/

set_option autoImplicit false

namespace DdlSchema.Command

open DdlSchema.Report DdlSchema.Schema

def versionNumber : String := "0.1.0"

def versionLine : String := "SchemaFlow v" ++ versionNumber ++ "\n"

inductive Place where
  | writable
  | noDirectory
  | isDirectory
  | notADirectory
  deriving DecidableEq, Repr

inductive Crash where
  | danglingMark
  | unwritable (place : Place)
  deriving DecidableEq, Repr

inductive Ending where
  | exit (code : Nat)
  | crash (reason : Crash)
  deriving DecidableEq, Repr

structure Outcome where
  ending : Ending
  stdout : String := ""
  stderr : String := ""
  /-- The text for the output file. -/
  written : Option String := none

def misuseOutcome (problem : Misuse) : Outcome :=
  { ending := .exit 2, stderr := "schemaflow: error: " ++ problem.message ++ "\n" }

/-- The output file, if one is asked for. -/
def Arguments.outputPath? (arguments : Arguments) : Option String :=
  arguments.jsonOut.filter fun path => !path.isEmpty

def present (arguments : Arguments) (place : Place) (result : ParseResult) (log : String) : Outcome :=
  let shown :=
    if arguments.summary then summary (Palette.choose arguments.noColor) result ++ "\n" else ""
  let document := (resultDocument result).indented
  let code := if result.hasErrors then 1 else 0
  match arguments.outputPath? with
  | some path =>
    if place = .writable then
      { ending := .exit code, stderr := log, written := some document
        stdout := shown ++ "JSON schema saved to " ++ path ++ "\n" }
    else { ending := .crash (.unwritable place), stdout := shown, stderr := log }
  | none =>
    { ending := .exit code, stderr := log
      stdout := if arguments.summary then shown else document ++ "\n" }

def commandEntry (arguments : Arguments) : LogEntry :=
  entryOf .debug "cli"
    ("Command=parse, Source=" ++ arguments.source ++ ", Dialects=" ++ arguments.dialects.getD "None")
    { file := .text arguments.source }

/-- Parses what is at the source path. The path is read before the dialects are looked at. -/
def execute (arguments : Arguments) (source : Source) (place : Place) (isTerminal : Bool)
    (timestamp : String) : Outcome :=
  let logger := Logger.setup {} arguments.verbosity
    (.choose arguments.logFormat arguments.noColor isTerminal)
  let log := fun entries => logger.write (commandEntry arguments :: entries) timestamp
  let failed := fun (message : String) =>
    { ending := .exit 1, stderr := log [] ++ "Error: " ++ message ++ "\n" : Outcome }
  match source.read arguments.source with
  | .error problem => failed problem.message
  | .ok script =>
    match Ddl.resolveDialects (arguments.dialects.bind Ddl.dialectList) with
    | .error problem => failed problem.message
    | .ok dialects =>
      match parse ⟨dialects, arguments.isolate⟩ script with
      | .error (.spelling problem) => failed problem.message
      | .error .danglingMark => { ending := .crash .danglingMark, stderr := log [] }
      | .ok run => present arguments place run.result (log (runEntries script run))

end DdlSchema.Command
