import DdlSchema.Ddl.Check
import DdlSchema.Ddl.Reader.Statement

/-! Trying dialects in turn. The first that accepts the whole text counts. -/

set_option autoImplicit false

namespace DdlSchema.Ddl

def readTables (dialect : Dialect) (text : List Char) : Except Problem (List CreateTable) := do
  (← readStatements dialect text).mapM (checkStatement dialect)

structure Fallback where
  rejections : List (Dialect × Problem)
  accepted : Option (Dialect × List CreateTable)

def Fallback.reject (dialect : Dialect) (problem : Problem) (later : Fallback) : Fallback :=
  { later with rejections := (dialect, problem) :: later.rejections }

/-- Tries the dialects in order with `read`. -/
def tryDialects (read : Dialect → Except Problem (List CreateTable)) : List Dialect → Fallback
  | [] => ⟨[], none⟩
  | dialect :: rest =>
    match read dialect with
    | .ok tables => ⟨[], some (dialect, tables)⟩
    | .error problem => (tryDialects read rest).reject dialect problem

def parseTables (dialects : List Dialect) (text : List Char) : Fallback :=
  tryDialects (fun dialect => readTables dialect text) dialects

/-- What the user is told where no dialect accepted the text: the last problem counts. -/
def Fallback.errors (result : Fallback) : List String :=
  match result.accepted, result.rejections.getLast? with
  | none, some (_, problem) => errorReport problem.message
  | _, _ => []

def Fallback.definitions (result : Fallback) : List (Dialect × CreateTable) :=
  match result.accepted with
  | some (dialect, tables) => tables.map fun table => (dialect, table)
  | none => []

end DdlSchema.Ddl
