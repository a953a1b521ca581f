import DdlSchema.Text.Case

/-! The schema model: tables with their columns and indexes, and the foreign keys between them. -/

set_option autoImplicit false

namespace DdlSchema.Schema

open DdlSchema.Text

inductive Engine where
  | innoDB
  | myISAM
  | memory
  | archive
  | csv
  deriving DecidableEq, Repr

def Engine.all : List Engine := [.innoDB, .myISAM, .memory, .archive, .csv]

def Engine.name : Engine → String
  | .innoDB => "InnoDB"
  | .myISAM => "MyISAM"
  | .memory => "MEMORY"
  | .archive => "ARCHIVE"
  | .csv => "CSV"

/-- A written engine name in any case and with or without quotes; an unknown one is InnoDB. -/
def Engine.ofText (value : String) : Engine :=
  let isMark := fun c => c == '\x27' || c == '\x22' || c == '\x60'
  let inner := (((trim value.toList).dropWhile isMark).reverse.dropWhile isMark).reverse
  (all.find? fun engine => upper engine.name.toList == upper inner).getD .innoDB

inductive IndexKind where
  | plain
  | unique
  | fulltext
  | spatial
  deriving DecidableEq, Repr

def IndexKind.name : IndexKind → String
  | .plain => "INDEX"
  | .unique => "UNIQUE"
  | .fulltext => "FULLTEXT"
  | .spatial => "SPATIAL"

def IndexKind.ofName? (name : String) : Option IndexKind :=
  [IndexKind.plain, .unique, .fulltext, .spatial].find? fun kind => kind.name == name

inductive Cardinality where
  | oneToOne
  | oneToMany
  deriving DecidableEq, Repr

def Cardinality.name : Cardinality → String
  | .oneToOne => "1:1"
  | .oneToMany => "1:N"

inductive ReferentialAction where
  | cascade
  | setNull
  | setDefault
  | restrict
  | noAction
  deriving DecidableEq, Repr

def ReferentialAction.all : List ReferentialAction :=
  [.cascade, .setNull, .setDefault, .restrict, .noAction]

def ReferentialAction.name : ReferentialAction → String
  | .cascade => "CASCADE"
  | .setNull => "SET NULL"
  | .setDefault => "SET DEFAULT"
  | .restrict => "RESTRICT"
  | .noAction => "NO ACTION"

def ReferentialAction.ofName? (name : String) : Option ReferentialAction :=
  all.find? fun action => action.name == name

def canonicalWords (text : List Char) : String := String.ofList (squeeze (upper text))

/-- The action that is written in any case and with any blanks between its words. -/
def ReferentialAction.ofText? (text : String) : Option ReferentialAction :=
  ofName? (canonicalWords text.toList)

/-- Per-parse numbering of columns and indexes, one count for each prefix. -/
structure IdCounter where
  counts : List (String × Nat)
  deriving DecidableEq, Repr

def IdCounter.start : IdCounter := ⟨[]⟩

def IdCounter.next (counter : IdCounter) (stem : String) : String × IdCounter :=
  let count := (counter.counts.lookup stem).getD 0 + 1
  (stem ++ "_" ++ toString count, ⟨(stem, count) :: counter.counts.filter fun entry => entry.1 != stem⟩)

/-- What a foreign key column points to. -/
structure Target where
  table : String
  column : String
  deriving DecidableEq, Repr

structure Column where
  id : String
  name : String
  dataType : String
  isPrimaryKey : Bool := false
  target : Option Target := none
  isNullable : Bool := true
  isUnique : Bool := false
  isIndexed : Bool := false
  autoIncrement : Bool := false
  defaultValue : Option String := none
  collation : Option String := none
  comment : Option String := none
  deriving DecidableEq, Repr

def Column.isForeignKey (column : Column) : Bool := column.target.isSome

def Column.display (column : Column) : String :=
  "Column(name=\x27" ++ column.name ++ "\x27, type=\x27" ++ column.dataType ++ "\x27)"

def Column.markPrimaryKey (column : Column) : Column :=
  { column with isPrimaryKey := true, isNullable := false }

def Column.markForeignKey (column : Column) (target : Target) : Column :=
  { column with target := some target }

def Column.markUnique (column : Column) : Column := { column with isUnique := true }

def Column.markIndexed (column : Column) : Column := { column with isIndexed := true }

/-- An index lists the ids of its columns. -/
structure Index where
  id : String
  name : String
  columns : List String
  kind : IndexKind
  deriving DecidableEq, Repr

structure Table where
  name : String
  columns : List Column := []
  indexes : List Index := []
  engine : Engine := .innoDB
  collation : Option String := none
  comment : Option String := none
  deriving DecidableEq, Repr

/-- The position of the first name that is equal, or else equal in lower case. -/
def namePosition? (names : List String) (name : String) : Option Nat :=
  match names.findIdx? (· == name) with
  | some position => some position
  | none => names.findIdx? fun other => lowerString other == lowerString name

def Table.position? (table : Table) (name : String) : Option Nat :=
  namePosition? (table.columns.map Column.name) name

def Table.column? (table : Table) (name : String) : Option Column :=
  (table.position? name).bind fun position => table.columns[position]?

def Table.hasPrimaryKey (table : Table) : Bool := table.columns.any Column.isPrimaryKey

def Table.modifyColumn (table : Table) (position : Nat) (change : Column → Column) : Table :=
  { table with columns := table.columns.modify position change }

def Table.modifyColumns (table : Table) (positions : List Nat) (change : Column → Column) : Table :=
  positions.foldl (fun table position => table.modifyColumn position change) table

/-- The positions of the names that are columns of the table. -/
def Table.positions (table : Table) (names : List String) : List Nat :=
  names.filterMap table.position?

def Table.columnsAt (table : Table) (positions : List Nat) : List Column :=
  positions.filterMap fun position => table.columns[position]?

/-- The name an index gets when it is declared without one. -/
def Table.indexName (table : Table) (columns : List Column) : String :=
  "idx_" ++ table.name ++ "_" ++ String.intercalate "_" (columns.map Column.name)

structure ForeignKey where
  table : String
  column : String
  target : Target
  onDelete : Option ReferentialAction := none
  onUpdate : Option ReferentialAction := none
  cardinality : Cardinality := .oneToMany
  constraintName : Option String := none
  deriving DecidableEq, Repr

def defaultTargetColumn : String := "id"

/-- The column at the same position in the target list, or the first where that list is short. -/
def targetColumn (columns : List String) (position : Nat) : String :=
  columns.getD position (columns.headD defaultTargetColumn)

structure PrimaryKeyClause where
  table : String
  columns : List String
  deriving DecidableEq, Repr

structure UniqueKeyClause where
  table : String
  columns : List String
  name : Option String
  deriving DecidableEq, Repr

structure AutoIncrementClause where
  table : String
  column : String
  deriving DecidableEq, Repr

structure IndexClause where
  table : String
  columns : List String
  name : Option String
  kind : IndexKind
  deriving DecidableEq, Repr

/-- The constraints that ALTER TABLE statements add. -/
structure AlterConstraints where
  foreignKeys : List ForeignKey := []
  primaryKeys : List PrimaryKeyClause := []
  uniqueKeys : List UniqueKeyClause := []
  autoIncrements : List AutoIncrementClause := []
  indexes : List IndexClause := []
  deriving DecidableEq, Repr

def AlterConstraints.isEmpty (alter : AlterConstraints) : Bool :=
  alter.foreignKeys.isEmpty && alter.primaryKeys.isEmpty && alter.uniqueKeys.isEmpty &&
    alter.autoIncrements.isEmpty && alter.indexes.isEmpty

end DdlSchema.Schema
