import DdlSchema.Ddl.KeyName
import DdlSchema.Ddl.Printer
import DdlSchema.Schema.ImplicitKey
import DdlSchema.Schema.Merge
import DdlSchema.Schema.TypeName

/-! The table that a definition describes. Columns come first; the constraints of the table are
then applied to them in order; a table that declares no primary key gets the most likely one. -/

set_option autoImplicit false

namespace DdlSchema.Schema

open DdlSchema.Ddl DdlSchema.Text

def declaredType (type : Option DataType) : String := (type.map DataType.declared).getD ""

def isSerial (type : String) : Bool :=
  ["SERIAL", "BIGSERIAL", "SMALLSERIAL", "SERIAL2", "SERIAL4", "SERIAL8"].contains
    (upperString (String.ofList (type.toList.takeWhile (· != '('))))

/-- The action that an option gives for the event; `none` if it is about something else. -/
def optionAction? (event option : String) : Option ReferentialAction :=
  let words := (canonicalWords option.toList).toList
  let lead := ("ON " ++ event ++ " ").toList
  if lead.isPrefixOf words then
    ReferentialAction.ofText? (String.ofList (words.drop lead.length))
  else none

def referenceAction? (event : String) (reference : Reference) : Option ReferentialAction :=
  reference.options.reverse.findSome? (optionAction? event)

def referenceKey (table column : String) (reference : Reference) (position : Nat)
    (name : Option String) : ForeignKey :=
  { table, column
    target := ⟨reference.table, targetColumn reference.columns position⟩
    onDelete := referenceAction? "DELETE" reference
    onUpdate := referenceAction? "UPDATE" reference
    constraintName := name }

def Column.apply (dialect : Dialect) (column : Column) : Constraint → Column
  | .primaryKey none => column.markPrimaryKey
  | .nullability allowed => { column with isNullable := allowed }
  | .unique _ => column.markUnique
  | .default value => { column with defaultValue := some (value.asDefault dialect) }
  | .autoIncrement | .identity none => { column with autoIncrement := true }
  | .collate name => { column with collation := some name }
  | .comment text => { column with comment := some text }
  | _ => column

/-- Applies the constraints up to the first reference, which ends them. -/
def Column.applyAll (table : String) (dialect : Dialect) :
    Column → List ColumnConstraint → Column × Option ForeignKey
  | column, [] => (column, none)
  | column, ⟨name, .reference reference⟩ :: _ =>
    let key := referenceKey table column.name reference 0 name
    (column.markForeignKey key.target, some key)
  | column, constraint :: rest => (column.apply dialect constraint.kind).applyAll table dialect rest

def Column.close (column : Column) : Column :=
  { column with isNullable := column.isNullable && !column.isPrimaryKey }

def Column.fresh (id name : String) (type : Option DataType) : Column :=
  let declared := declaredType type
  { id, name, dataType := normalizeType name declared, autoIncrement := isSerial declared }

def columnParts? : Element → Option (String × Option DataType × List ColumnConstraint)
  | .column definition => some (definition.name.text, definition.type, definition.constraints)
  | .bareColumn name => some (name.text, none, [])
  | .constraint _ | .namedConstraint _ _ | .expression _ => none

def defineColumn (table : String) (dialect : Dialect) (id : String)
    (parts : String × Option DataType × List ColumnConstraint) : Column × Option ForeignKey :=
  let (name, type, constraints) := parts
  let (column, key) := (Column.fresh id name type).applyAll table dialect constraints
  (column.close, key)

def defineColumns (table : String) (dialect : Dialect) :
    IdCounter → List (String × Option DataType × List ColumnConstraint) →
    List (Column × Option ForeignKey) × IdCounter
  | ids, [] => ([], ids)
  | ids, parts :: rest =>
    let (id, ids) := ids.next "col"
    let (others, ids) := defineColumns table dialect ids rest
    (defineColumn table dialect id parts :: others, ids)

structure Defining where
  table : Table
  foreignKeys : List ForeignKey
  ids : IdCounter
  warnings : List Warning
  hasExplicitKey : Bool

def Defining.warn (state : Defining) (warning : Warning) : Defining :=
  { state with warnings := state.warnings ++ [warning] }

def Defining.primaryKey (state : Defining) (columns : List String) : Defining :=
  let (table, warnings) := columns.foldl markKeyColumn (state.table, state.warnings)
  { state with table, warnings, hasExplicitKey := true }

/-- The name of the constraint counts before the one inside it. -/
def Defining.unique (state : Defining) (target : UniqueTarget) (name : Option String) : Defining :=
  let (name, columns) := match target with
    | .nothing => (name, [])
    | .single column => (name, [column])
    | .columns own columns => (name <|> own, columns)
  let (table, ids) := state.table.addUnique state.ids name columns
  { state with table, ids }

def Defining.index (state : Defining) (definition : IndexDefinition) : Defining :=
  let kind := match definition.kind with
    | .plain => IndexKind.plain
    | .fulltext => .fulltext
    | .spatial => .spatial
  let columns := definition.parts.map fun part => part.target.keyName
  let (table, ids) :=
    state.table.addPlainIndex state.ids (definition.name.map Name.text) columns kind
  { state with table, ids }

def Defining.foreignKeyColumn (state : Defining) (key : ForeignKey) : Defining :=
  match state.table.position? key.column with
  | none => state.warn (.foreignKeyColumnMissing key.column state.table.name)
  | some position =>
    let name := (state.table.columns[position]?.map Column.name).getD key.column
    { state with
      table := state.table.modifyColumn position fun column => column.markForeignKey key.target
      foreignKeys := state.foreignKeys ++ [{ key with column := name }] }

def Defining.foreignKey (state : Defining) (columns : List String) (reference : Reference)
    (onDelete onUpdate : Option ReferentialAction) (name : Option String) : Defining :=
  let keys := columns.mapIdx fun position column =>
    let key := referenceKey state.table.name column reference position name
    { key with onDelete := key.onDelete <|> onDelete, onUpdate := key.onUpdate <|> onUpdate }
  keys.foldl Defining.foreignKeyColumn state

/-- Applies a constraint of the table; those that only say something about one column are without
effect. -/
def Defining.apply (name : Option String) (state : Defining) : Constraint → Defining
  | .primaryKey (some columns) => state.primaryKey columns
  | .unique target => state.unique target name
  | .foreignKey columns (some reference) onDelete onUpdate =>
    state.foreignKey columns reference (onDelete.bind ReferentialAction.ofText?)
      (onUpdate.bind ReferentialAction.ofText?) name
  | .index definition => state.index definition
  | _ => state

def Defining.applyElement (state : Defining) : Element → Defining
  | .constraint kind => state.apply none kind
  | .namedConstraint name kinds => kinds.foldl (Defining.apply name) state
  | .column _ | .bareColumn _ | .expression _ => state

def Table.applyProperty (table : Table) : Property → Table
  | .engine value => { table with engine := Engine.ofText value.ownName }
  | .collate value => { table with collation := some value.ownName }
  | .comment value => { table with comment := some value.ownName }
  | .temporary | .other _ _ => table

/-- A table with the keys and warnings that came with it. `impliedKey` is the column that was
taken for a primary key that is not declared. -/
structure DefinedTable where
  table : Table
  foreignKeys : List ForeignKey
  warnings : List Warning
  hasExplicitKey : Bool
  impliedKey : Option String

def Defining.finish (state : Defining) : DefinedTable :=
  if state.hasExplicitKey then
    ⟨state.table, state.foreignKeys, state.warnings, true, none⟩
  else match implicitKey? state.table.name state.table.columns with
    | some position =>
      { table := state.table.modifyColumn position Column.markPrimaryKey
        foreignKeys := state.foreignKeys
        warnings := state.warnings
        hasExplicitKey := false
        impliedKey := state.table.columns[position]?.map Column.name }
    | none =>
      ⟨state.table, state.foreignKeys, (state.warn (.noDetectableKey state.table.name)).warnings,
        false, none⟩

def startTable (name : String) (dialect : Dialect) (elements : List Element) (ids : IdCounter) :
    Defining :=
  let (columns, ids) := defineColumns name dialect ids (elements.filterMap columnParts?)
  let table : Table := { name, columns := columns.map Prod.fst }
  { table, foreignKeys := columns.filterMap Prod.snd, ids, warnings := []
    hasExplicitKey := table.hasPrimaryKey }

/-- The table of a definition, and the ids that are left; a definition without a name has none. -/
def defineTable (ids : IdCounter) (dialect : Dialect) (definition : CreateTable) :
    Except NamelessTable (DefinedTable × IdCounter) :=
  let name := String.ofList (trim definition.name.toList)
  if name.isEmpty then .error {}
  else
    let start := startTable name dialect definition.entries ids
    let state := definition.entries.foldl Defining.applyElement start
    let defined := state.finish
    .ok ({ defined with table := definition.properties.foldl Table.applyProperty defined.table },
      state.ids)

end DdlSchema.Schema
