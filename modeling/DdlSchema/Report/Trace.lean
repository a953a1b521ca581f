import DdlSchema.Report.Log
import DdlSchema.Schema.Parse

/-! What a parse has to say about its stages, in the order in which they were gone through. -/

set_option autoImplicit false

namespace DdlSchema.Report

open DdlSchema.Ddl DdlSchema.Schema DdlSchema.Statement

def entryOf (level : Level) (part message : String) (context : Context := {}) : LogEntry :=
  { level := level.name, logger := loggerName part, message, context }

/-- The first fifty characters. -/
def excerpt (text : List Char) : String := String.ofList (text.take 50)

def readingEntry? : ClauseReading → Option LogEntry
  | .ignored table clause =>
    some (entryOf .debug "alter" ("Ignoring ALTER TABLE clause on " ++ table ++ ": " ++ excerpt clause))
  | _ => none

def extractionMessage (alter : AlterConstraints) : String :=
  "Extracted " ++ toString alter.primaryKeys.length ++ " primary keys, " ++
    toString alter.foreignKeys.length ++ " foreign keys, " ++
    toString alter.uniqueKeys.length ++ " unique keys, " ++
    toString alter.autoIncrements.length ++ " auto increments from ALTER TABLE"

def alterEntries (script : List Char) (readings : List ClauseReading) : List LogEntry :=
  if script.isEmpty then []
  else readings.filterMap readingEntry? ++
    [entryOf .debug "alter" (extractionMessage (.ofReadings readings))]

def dispositionEntry? : Disposition → Option LogEntry
  | .skipped statement =>
    some (entryOf .debug "preprocessor" ("Skipping non-structural statement: " ++ excerpt statement))
  | .ignored statement =>
    some (entryOf .debug "preprocessor" ("Ignoring statement: " ++ excerpt statement))
  | .withoutColumns statement =>
    some (entryOf .debug "preprocessor"
      ("Ignoring CREATE TABLE without column list: " ++ excerpt statement))
  | .altering | .creating _ => none

def preparedEntries (script : List Char) (prepared : Prepared) : List LogEntry :=
  if (Text.trim script).isEmpty then []
  else prepared.dispositions.filterMap dispositionEntry? ++
    [entryOf .debug "preprocessor"
      ("Preprocessed " ++ toString prepared.creating.length ++ " CREATE TABLE and " ++
        toString prepared.alterCount ++ " ALTER TABLE statements")]

def dialectContext (dialect : Option Dialect) : Context :=
  { dialect := Json.ofOption (dialect.map Dialect.name) }

def rejectionEntry (rejection : Dialect × Problem) : LogEntry :=
  let (dialect, problem) := rejection
  entryOf .debug "grammar" (dialect.name ++ " grammar rejected input: " ++ problem.message)
    { dialectContext (some dialect) with line := (problem.line?.map Json.ofNat).getD .null }

def fallbackEntries (result : Fallback) : List LogEntry :=
  result.rejections.map rejectionEntry ++
    result.accepted.toList.map fun (dialect, _) =>
      entryOf .debug "grammar" ("Parsed with " ++ dialect.name ++ " grammar")
        (dialectContext (some dialect))

def selectionEntries (selection : Selection) : List LogEntry :=
  selection.fallbacks.flatMap fallbackEntries ++ selection.errors.map (entryOf .error "parser")

def outcomeEntry? : Except NamelessTable DefinedTable → Option LogEntry
  | .error problem => some (entryOf .error "parser" (definitionError problem))
  | .ok defined => defined.impliedKey.map fun column =>
    entryOf .debug "walker" ("Using " ++ column ++ " as implicit primary key")
      { table := .text defined.table.name }

def unknownTableEntry? : Warning → Option LogEntry
  | .alteredTableMissing table =>
    some (entryOf .debug "merger" ("ALTER TABLE constraint targets unknown table " ++ table))
  | _ => none

def applyingMessage (alter : AlterConstraints) : String :=
  "Applying ALTER TABLE constraints: " ++ toString alter.primaryKeys.length ++ " primary keys, " ++
    toString alter.uniqueKeys.length ++ " unique keys, " ++
    toString alter.indexes.length ++ " indexes, " ++
    toString alter.foreignKeys.length ++ " foreign keys"

def mergedEntries (alter : AlterConstraints) (merged : Merged) : List LogEntry :=
  (if alter.isEmpty then [] else [entryOf .debug "merger" (applyingMessage alter)]) ++
    merged.warnings.filterMap unknownTableEntry?

/-- The warnings and the summary of a parse that came to its end. -/
def resultEntries (result : ParseResult) : List LogEntry :=
  result.warnings.map (entryOf .warning "parser") ++
    [entryOf .info "parser"
      ("Parsed " ++ toString result.tables.length ++ " tables and " ++
        toString result.foreignKeys.length ++ " foreign keys") (dialectContext result.dialect)]

def assemblyEntries (alter : AlterConstraints) (assembly : Assembly) : List LogEntry :=
  assembly.outcomes.filterMap outcomeEntry? ++
    match assembly.merged with
    | some merged => mergedEntries alter merged ++ resultEntries assembly.result
    | none => []

/-- All that a parse of the script has to say. -/
def runEntries (script : List Char) (run : ParseRun) : List LogEntry :=
  alterEntries script run.readings ++ preparedEntries script run.prepared ++
    match run.selection with
    | none => run.result.warnings.map (entryOf .warning "parser")
    | some selection =>
      selectionEntries selection ++
        (run.assembly.toList.flatMap (assemblyEntries (.ofReadings run.readings)))

end DdlSchema.Report
