import DdlSchema.Report.Log
import DdlSchema.Schema.Parse

/-! A parse result for people to read, one line for each table, column, key and message. -/

set_option autoImplicit false

namespace DdlSchema.Report

open DdlSchema.Schema

/-- The escape sequences that lines are coloured with, all empty without colours. -/
structure Palette where
  good : String
  bad : String
  caution : String
  reset : String

def Palette.choose (noColor : Bool) : Palette :=
  if noColor then ⟨"", "", "", ""⟩ else ⟨"\x1b[92m", "\x1b[91m", "\x1b[93m", colorEnd⟩

def columnFlags (column : Column) : List String :=
  (if column.isPrimaryKey then ["PK"] else []) ++
    (match column.target with
    | some target => ["FK -> " ++ target.table ++ "." ++ target.column]
    | none => []) ++
    (if column.isUnique then ["UNIQUE"] else []) ++
    (if column.autoIncrement then ["AUTO_INCREMENT"] else []) ++
    (if column.isNullable then [] else ["NOT NULL"])

def columnLine (palette : Palette) (column : Column) : String :=
  let flags := columnFlags column
  let suffix := if flags.isEmpty then "" else " [" ++ String.intercalate ", " flags ++ "]"
  palette.good ++ "    + Column: " ++ column.name ++ " (" ++ column.dataType ++ ")" ++ suffix ++
    palette.reset

def tableLines (palette : Palette) (table : Table) : List String :=
  (palette.good ++ "  + Table: " ++ table.name ++ " (" ++ table.engine.name ++ ")" ++ palette.reset) ::
    table.columns.map (columnLine palette)

def keyLine (key : ForeignKey) : String :=
  "  ~ Relationship: " ++ key.table ++ "." ++ key.column ++ " -> " ++ key.target.table ++ "." ++
    key.target.column ++ " (" ++ key.cardinality.name ++ ")"

def summaryLines (palette : Palette) (result : ParseResult) : List String :=
  "Schema Summary:" ::
    (result.dialect.toList.map fun dialect => "  Dialect: " ++ dialect.name) ++
    result.tables.flatMap (tableLines palette) ++
    result.foreignKeys.map keyLine ++
    (result.warnings.map fun warning =>
      palette.caution ++ "  ! Warning: " ++ warning ++ palette.reset) ++
    (result.errors.map fun error => palette.bad ++ "  x Error: " ++ error ++ palette.reset) ++
    (if result.tables.isEmpty && result.errors.isEmpty then ["No tables found."] else [])

def summary (palette : Palette) (result : ParseResult) : String :=
  String.join ((summaryLines palette result).map (· ++ "\n"))

end DdlSchema.Report
