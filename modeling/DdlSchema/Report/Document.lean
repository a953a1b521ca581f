import DdlSchema.Report.Json
import DdlSchema.Schema.Parse

/-! The schema as a JSON document. -/

set_option autoImplicit false

namespace DdlSchema.Report

open DdlSchema.Schema

def targetFields : Option Target → List (String × Json)
  | some target =>
    [("referencedTable", .text target.table), ("referencedColumn", .text target.column)]
  | none => []

def columnDocument (column : Column) : Json :=
  .object ([("id", .text column.id), ("name", .text column.name), ("type", .text column.dataType),
    ("isPrimaryKey", .flag column.isPrimaryKey), ("isForeignKey", .flag column.isForeignKey),
    ("isNullable", .flag column.isNullable), ("isUnique", .flag column.isUnique),
    ("isIndexed", .flag column.isIndexed), ("autoIncrement", .flag column.autoIncrement),
    ("defaultValue", .ofOption column.defaultValue), ("collation", .ofOption column.collation),
    ("comment", .ofOption column.comment)] ++ targetFields column.target)

def indexDocument (index : Index) : Json :=
  .object [("id", .text index.id), ("name", .text index.name),
    ("columns", .ofStrings index.columns), ("type", .text index.kind.name)]

def tableDocument (table : Table) : Json :=
  .object [("name", .text table.name), ("columns", .list (table.columns.map columnDocument)),
    ("indexes", .list (table.indexes.map indexDocument)), ("engine", .text table.engine.name),
    ("collation", .ofOption table.collation), ("comment", .ofOption table.comment)]

def actionDocument (action : Option ReferentialAction) : Json :=
  .ofOption (action.map ReferentialAction.name)

def foreignKeyDocument (key : ForeignKey) : Json :=
  .object [("tableName", .text key.table), ("columnName", .text key.column),
    ("referencedTable", .text key.target.table), ("referencedColumn", .text key.target.column),
    ("onDelete", actionDocument key.onDelete), ("onUpdate", actionDocument key.onUpdate),
    ("cardinality", .text key.cardinality.name), ("constraintName", .ofOption key.constraintName)]

def resultDocument (result : ParseResult) : Json :=
  .object [("tables", .list (result.tables.map tableDocument)),
    ("foreignKeyConstraints", .list (result.foreignKeys.map foreignKeyDocument)),
    ("errors", .ofStrings result.errors), ("warnings", .ofStrings result.warnings),
    ("dialect", .ofOption (result.dialect.map Ddl.Dialect.name))]

end DdlSchema.Report
