import DdlSchema.Ddl.Fallback
import DdlSchema.Schema.Alter
import DdlSchema.Schema.Definition

/-! From a script to its schema: the CREATE TABLE statements are read with the first dialect that
accepts them, their tables are defined in order, and the altered constraints are merged in. Every
stage is kept, so that a report can be made of it. -/

set_option autoImplicit false

namespace DdlSchema.Schema

open DdlSchema.Ddl DdlSchema.Statement DdlSchema.Text

structure ParseResult where
  tables : List Table := []
  foreignKeys : List ForeignKey := []
  errors : List String := []
  warnings : List String := []
  dialect : Option Dialect := none
  deriving DecidableEq

def ParseResult.hasErrors (result : ParseResult) : Bool := !result.errors.isEmpty

/-- The table with exactly this name, or else the first with the same name in lower case. -/
def ParseResult.table? (result : ParseResult) (name : String) : Option Table :=
  (namePosition? (result.tables.map Table.name) name).bind fun position => result.tables[position]?

structure ParseOptions where
  dialects : List Dialect
  /-- Every statement on its own; one that no dialect accepts is skipped with a warning. -/
  isolate : Bool := false

abbrev TableReader : Type := Dialect → List Char → Except Problem (List CreateTable)

structure Selection where
  fallbacks : List Fallback
  definitions : List (Dialect × CreateTable)
  dialect : Option Dialect
  errors : List String
  warnings : List Warning

def selectBatch (read : TableReader) (dialects : List Dialect) (batch : List Char) : Selection :=
  let result := tryDialects (fun dialect => read dialect batch) dialects
  { fallbacks := [result]
    definitions := Fallback.definitions result
    dialect := result.accepted.map Prod.fst
    errors := result.errors
    warnings := [] }

def mostFrequent (dialects : List Dialect) : Option Dialect :=
  dialects.find? fun dialect => dialects.all fun other => dialects.count other ≤ dialects.count dialect

def skippedWarning? (statement : List Char) (result : Fallback) : Option Warning :=
  match result.accepted with
  | some _ => none
  | none => some (.skippedStatement (String.ofList statement) (result.errors.headD ""))

/-- Every statement on its own. There are errors only if no statement defines a table. -/
def selectIsolated (read : TableReader) (dialects : List Dialect)
    (statements : List (List Char)) : Selection :=
  let results := statements.map fun statement =>
    tryDialects (fun dialect => read dialect statement) dialects
  let definitions := results.flatMap Fallback.definitions
  let failed := results.filter fun result => result.accepted.isNone
  { fallbacks := results
    definitions
    dialect :=
      if definitions.isEmpty then none
      else mostFrequent (results.filterMap fun result => result.accepted.map Prod.fst)
    errors := if definitions.isEmpty then (failed.getLast?.map Fallback.errors).getD [] else []
    warnings := (List.zipWith skippedWarning? statements results).filterMap id }

def defineTables : IdCounter → List (Dialect × CreateTable) →
    List (Except NamelessTable DefinedTable) × IdCounter
  | ids, [] => ([], ids)
  | ids, (dialect, definition) :: rest =>
    match defineTable ids dialect definition with
    | .error problem =>
      let (others, ids) := defineTables ids rest
      (.error problem :: others, ids)
    | .ok (defined, ids) =>
      let (others, ids) := defineTables ids rest
      (.ok defined :: others, ids)

/-- Tables with distinct names, and the foreign keys declared along with them. -/
structure Collected where
  tables : List Table := []
  foreignKeys : List ForeignKey := []
  warnings : List Warning := []
  errors : List NamelessTable := []

def Collected.add (state : Collected) : Except NamelessTable DefinedTable → Collected
  | .error problem => { state with errors := state.errors ++ [problem] }
  | .ok defined =>
    let name := defined.table.name
    match state.tables.findIdx? fun table => table.name == name with
    | some position =>
      { state with
        tables := state.tables.set position defined.table
        foreignKeys := state.foreignKeys.filter (fun key => key.table != name) ++ defined.foreignKeys
        warnings := state.warnings ++ .duplicateTable name :: defined.warnings }
    | none =>
      { state with
        tables := state.tables ++ [defined.table]
        foreignKeys := state.foreignKeys ++ defined.foreignKeys
        warnings := state.warnings ++ defined.warnings }

def collect (outcomes : List (Except NamelessTable DefinedTable)) : Collected :=
  outcomes.foldl Collected.add {}

def definitionError (problem : NamelessTable) : String := "Error parsing table: " ++ problem.message

def messages (warnings : List Warning) : List String :=
  (warnings.map Warning.message).foldl
    (fun seen message => if seen.contains message then seen else seen ++ [message]) []

/-- A table and its constraints after all stages; `merged` is there if any stage got so far. -/
structure Assembly where
  outcomes : List (Except NamelessTable DefinedTable)
  merged : Option Merged
  result : ParseResult

def assemble (selection : Selection) (alter : AlterConstraints) : Assembly :=
  let (outcomes, ids) := defineTables .start selection.definitions
  let collected := collect outcomes
  let errors := collected.errors.map definitionError
  let warnings := selection.warnings ++ collected.warnings
  if collected.tables.isEmpty && !errors.isEmpty then
    { outcomes, merged := none
      result := { errors, warnings := messages warnings, dialect := selection.dialect } }
  else
    let merged := merge collected.tables collected.foreignKeys alter ids
    { outcomes, merged := some merged
      result :=
        { tables := merged.tables
          foreignKeys := merged.foreignKeys
          errors
          warnings := messages (warnings ++ merged.warnings)
          dialect := selection.dialect } }

structure ParseRun where
  readings : List ClauseReading
  prepared : Prepared
  selection : Option Selection
  assembly : Option Assembly
  result : ParseResult

inductive ParseFailure where
  | spelling (problem : UnknownSpelling)
  /-- The text holds the mark of a masked literal that is not there. -/
  | danglingMark

def select (read : TableReader) (options : ParseOptions) (prepared : Prepared) : Selection :=
  if options.isolate then selectIsolated read options.dialects prepared.creating
  else selectBatch read options.dialects prepared.batch

def parsePrepared (read : TableReader) (options : ParseOptions) (prepared : Prepared)
    (alter : AlterConstraints) : Option Selection × Option Assembly × ParseResult :=
  if prepared.creating.isEmpty then
    (none, none, { warnings := [Warning.noTables.message] })
  else
    let selection := select read options prepared
    if selection.errors.isEmpty then
      let assembly := assemble selection alter
      (some selection, some assembly, assembly.result)
    else
      (some selection, none,
        { errors := selection.errors, warnings := messages selection.warnings })

/-- Parses a script with the given splitter and the given readers. -/
def parseWith (cut : Splitter) (read : TableReader) (options : ParseOptions) (script : List Char) :
    Except ParseFailure ParseRun :=
  let statements := statementsBy cut script
  match readAlterations statements, prepareAll statements with
  | .error problem, _ => .error (.spelling problem)
  | .ok _, none => .error .danglingMark
  | .ok readings, some prepared =>
    let (selection, assembly, result) :=
      parsePrepared read options prepared (.ofReadings readings)
    .ok ⟨readings, prepared, selection, assembly, result⟩

def parse (options : ParseOptions) (script : List Char) : Except ParseFailure ParseRun :=
  parseWith split readTables options script

end DdlSchema.Schema
