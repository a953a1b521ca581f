import DdlSchema.Schema.Model
import DdlSchema.Schema.Warning

/-! Applying altered constraints to the tables, one clause at a time. Primary keys come first and
replace what a table had; unique keys, increments and indexes are added; foreign keys come last,
and the cardinality of every foreign key is read off the finished tables. -/

set_option autoImplicit false

namespace DdlSchema.Schema

open DdlSchema.Text

/-- The position of the table a name stands for. The last table of exactly that name counts, and
without one the first whose lower case name it is. -/
def exactTable? (tables : List Table) (name : String) : Option Nat :=
  match (tables.reverse.findIdx? fun table => table.name == name) with
  | some fromEnd => some (tables.length - 1 - fromEnd)
  | none => tables.findIdx? fun table => lowerString table.name == name

/-- Like `exactTable?`, with a second try in lower case. -/
def findTable? (tables : List Table) (name : String) : Option Nat :=
  exactTable? tables name <|> exactTable? tables (lowerString name)

def cardinalityOf (table : Option Table) (column : String) : Cardinality :=
  match table.bind fun table => table.column? column with
  | some column => if column.isUnique || column.isPrimaryKey then .oneToOne else .oneToMany
  | none => .oneToMany

structure MergeState where
  tables : List Table
  ids : IdCounter
  warnings : List Warning
  deriving DecidableEq

def MergeState.warn (state : MergeState) (warning : Warning) : MergeState :=
  { state with warnings := state.warnings ++ [warning] }

def MergeState.setTable (state : MergeState) (position : Nat) (table : Table) : MergeState :=
  { state with tables := state.tables.set position table }

/-- Runs `change` on the altered table, or warns that there is none. -/
def MergeState.withTable (state : MergeState) (name : String)
    (change : Nat → Table → MergeState) : MergeState :=
  match (findTable? state.tables name).bind fun position =>
      state.tables[position]?.map fun table => (position, table) with
  | some (position, table) => change position table
  | none => state.warn (.alteredTableMissing name)

def markKeyColumn (state : Table × List Warning) (name : String) : Table × List Warning :=
  match state.1.position? name with
  | some position => (state.1.modifyColumn position Column.markPrimaryKey, state.2)
  | none => (state.1, state.2 ++ [.keyColumnMissing name state.1.name])

def MergeState.primaryKey (state : MergeState) (clause : PrimaryKeyClause) : MergeState :=
  state.withTable clause.table fun position table =>
    let cleared := { table with
      columns := table.columns.map fun column => { column with isPrimaryKey := false } }
    let (marked, warnings) := clause.columns.foldl markKeyColumn (cleared, state.warnings)
    { state.setTable position marked with warnings }

def Table.addIndex (table : Table) (ids : IdCounter) (name : String) (columns : List Column)
    (kind : IndexKind) : Table × IdCounter :=
  let (id, ids) := ids.next "idx"
  ({ table with indexes := table.indexes ++ [⟨id, name, columns.map Column.id, kind⟩] }, ids)

def Table.addUnique (table : Table) (ids : IdCounter) (name : Option String)
    (columns : List String) : Table × IdCounter :=
  let positions := table.positions columns
  let flagged := table.modifyColumns positions Column.markUnique
  match name with
  | some name =>
    if name.isEmpty || positions.isEmpty then (flagged, ids)
    else flagged.addIndex ids name (flagged.columnsAt positions) .unique
  | none => (flagged, ids)

/-- Flags the columns as indexed and adds the index; nothing happens if no column is known. -/
def Table.addPlainIndex (table : Table) (ids : IdCounter) (name : Option String)
    (columns : List String) (kind : IndexKind) : Table × IdCounter :=
  let positions := table.positions columns
  if positions.isEmpty then (table, ids)
  else
    let flagged := table.modifyColumns positions Column.markIndexed
    let members := flagged.columnsAt positions
    let name := match name with
      | some name => if name.isEmpty then flagged.indexName members else name
      | none => flagged.indexName members
    flagged.addIndex ids name members kind

def MergeState.uniqueKey (state : MergeState) (clause : UniqueKeyClause) : MergeState :=
  state.withTable clause.table fun position table =>
    let (table, ids) := table.addUnique state.ids clause.name clause.columns
    { state.setTable position table with ids }

def MergeState.autoIncrement (state : MergeState) (clause : AutoIncrementClause) : MergeState :=
  state.withTable clause.table fun position table =>
    match table.position? clause.column with
    | some column => state.setTable position
        (table.modifyColumn column fun column => { column with autoIncrement := true })
    | none => state

def MergeState.index (state : MergeState) (clause : IndexClause) : MergeState :=
  state.withTable clause.table fun position table =>
    let (table, ids) := table.addPlainIndex state.ids clause.name clause.columns clause.kind
    { state.setTable position table with ids }

def resolveForeignKey (tables : List Table) (key : ForeignKey) :
    Except Warning (Nat × Nat × ForeignKey) :=
  match (findTable? tables key.table).bind fun position =>
      tables[position]?.map fun table => (position, table) with
  | none => .error (.referencedTableMissing key.table)
  | some (position, table) =>
    match (table.position? key.column).bind fun place =>
        table.columns[place]?.map fun column => (place, column) with
    | none => .error (.foreignKeyColumnMissing key.column key.table)
    | some (place, column) =>
      .ok (position, place, { key with table := table.name, column := column.name })

def MergeState.foreignKey (state : MergeState × List ForeignKey) (key : ForeignKey) :
    MergeState × List ForeignKey :=
  match resolveForeignKey state.1.tables key with
  | .error warning => (state.1.warn warning, state.2)
  | .ok (position, place, resolved) =>
    ({ state.1 with
        tables := state.1.tables.modify position fun table =>
          table.modifyColumn place fun column => column.markForeignKey key.target },
      state.2 ++ [resolved])

def missingTargets (tables : List Table) (keys : List ForeignKey) : List Warning :=
  keys.filterMap fun key =>
    if (findTable? tables key.target.table).isNone then
      some (.referencedTableMissing key.target.table)
    else none

def withCardinality (tables : List Table) (key : ForeignKey) : ForeignKey :=
  { key with
    cardinality := cardinalityOf
      ((exactTable? tables key.table).bind fun position => tables[position]?) key.column }

structure Merged where
  tables : List Table
  foreignKeys : List ForeignKey
  ids : IdCounter
  warnings : List Warning

/-- Applies the constraints to the tables; `foreignKeys` are those the tables were created
with. -/
def merge (tables : List Table) (foreignKeys : List ForeignKey) (alter : AlterConstraints)
    (ids : IdCounter) : Merged :=
  let state : MergeState := ⟨tables, ids, []⟩
  let state := alter.primaryKeys.foldl MergeState.primaryKey state
  let state := alter.uniqueKeys.foldl MergeState.uniqueKey state
  let state := alter.autoIncrements.foldl MergeState.autoIncrement state
  let state := alter.indexes.foldl MergeState.index state
  let (state, keys) := alter.foreignKeys.foldl MergeState.foreignKey (state, foreignKeys)
  { tables := state.tables
    foreignKeys := keys.map (withCardinality state.tables)
    ids := state.ids
    warnings := state.warnings ++ missingTargets state.tables keys }

end DdlSchema.Schema
