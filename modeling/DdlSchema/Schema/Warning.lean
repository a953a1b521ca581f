/-! Things in a script that do not fit together but do not stop it from being read. -/

set_option autoImplicit false

namespace DdlSchema.Schema

inductive Warning where
  | noTables
  | skippedStatement (statement problem : String)
  | duplicateTable (table : String)
  | noDetectableKey (table : String)
  | keyColumnMissing (column table : String)
  | alteredTableMissing (table : String)
  | foreignKeyColumnMissing (column table : String)
  | referencedTableMissing (table : String)
  deriving DecidableEq, Repr

def quoteName (name : String) : String := "\"" ++ name ++ "\""

/-- At most a hundred characters; a longer text is cut and marked with dots. -/
def shorten (text : String) : String :=
  if text.length > 100 then String.ofList (text.toList.take 100) ++ "..." else text

def Warning.message : Warning → String
  | .noTables => "No CREATE TABLE statements found"
  | .skippedStatement statement problem =>
    "Skipped statement: " ++ shorten statement ++ " (" ++ problem ++ ")"
  | .duplicateTable table =>
    "Duplicate table " ++ quoteName table ++ ": later definition replaces earlier one"
  | .noDetectableKey table => "Table " ++ quoteName table ++ " has no detectable primary key"
  | .keyColumnMissing column table =>
    "Primary key column " ++ quoteName column ++ " not found in table " ++ quoteName table
  | .alteredTableMissing table =>
    "Table " ++ quoteName table ++ " not found for ALTER TABLE constraint"
  | .foreignKeyColumnMissing column table =>
    "Foreign key column " ++ quoteName column ++ " not found in table " ++ quoteName table
  | .referencedTableMissing table =>
    "Table " ++ quoteName table ++ " referenced in foreign key not found in CREATE TABLE statements"

structure NamelessTable where
  statement : String := ""
  reason : String := "Table name not found"
  deriving DecidableEq, Repr

def NamelessTable.message (problem : NamelessTable) : String :=
  if problem.statement.isEmpty then problem.reason
  else problem.reason ++ ": " ++ shorten problem.statement

end DdlSchema.Schema
