import DdlSchema.Proofs.Schema.Change
import DdlSchema.Schema.Definition

/-! What a definition comes to: its columns, then the changes that its constraints make, then the key
that is implied where none is declared. -/

set_option autoImplicit false

namespace DdlSchema.Schema

open DdlSchema.Ddl DdlSchema.Text

/-! Constraints of a table as changes. -/

/-- The foreign keys that a constraint declares, whether there are columns for them or not. -/
def constraintKeys (table : String) : Option String × Constraint → List ForeignKey
  | (name, .foreignKey columns (some reference) onDelete onUpdate) =>
    columns.mapIdx fun position column =>
      let key := referenceKey table column reference position name
      { key with
        onDelete := key.onDelete <|> onDelete.bind ReferentialAction.ofText?
        onUpdate := key.onUpdate <|> onUpdate.bind ReferentialAction.ofText? }
  | _ => []

def uniqueName (name : Option String) : UniqueTarget → Option String
  | .columns own _ => name <|> own
  | .nothing | .single _ => name

def uniqueColumns : UniqueTarget → List String
  | .nothing => []
  | .single column => [column]
  | .columns _ columns => columns

def indexKind : IndexWord → IndexKind
  | .plain => .plain
  | .fulltext => .fulltext
  | .spatial => .spatial

/-- The columns of a key that the whole table declares. -/
def keyColumns? : Constraint → Option (List String)
  | .primaryKey columns => columns
  | _ => none

def constraintChanges (constraint : Option String × Constraint) : List Change :=
  match constraint.2 with
  | .primaryKey (some columns) => [.key columns]
  | .unique target => [.unique (uniqueName constraint.1 target) (uniqueColumns target)]
  | .index definition =>
    [.plainIndex (definition.name.map Name.text) (definition.parts.map fun part => part.target.keyName)
      (indexKind definition.kind)]
  | _ => (constraintKeys "" constraint).map fun key => .link key.column key.target

/-- The key under the name that its column was created with, if there is such a column. -/
def Table.ownKey? (table : Table) (key : ForeignKey) : Option ForeignKey :=
  (table.position? key.column).map fun place =>
    { key with column := (table.columns[place]?.map Column.name).getD key.column }

def Table.ownRefusal? (table : Table) (key : ForeignKey) : Option Warning :=
  if (table.position? key.column).isNone then
    some (.foreignKeyColumnMissing key.column table.name)
  else none

def constraintWarnings (table : Table) (constraint : Option String × Constraint) : List Warning :=
  ((keyColumns? constraint.2).elim [] table.missing).map (.keyColumnMissing · table.name) ++
    (constraintKeys table.name constraint).filterMap table.ownRefusal?

theorem constraintChanges_foreignKey (table : String) (name : Option String) (columns : List String)
    (reference : Option Reference) (onDelete onUpdate : Option String) :
    constraintChanges (name, .foreignKey columns reference onDelete onUpdate) =
      (constraintKeys table (name, .foreignKey columns reference onDelete onUpdate)).map
        fun key => .link key.column key.target := by
  cases reference with
  | none => rfl
  | some reference =>
    simp only [constraintChanges, constraintKeys, List.mapIdx_eq_zipIdx_map, List.map_map]
    rfl

/-- The constraints of the table with their names, in order. -/
def constraintsOf : Element → List (Option String × Constraint)
  | .constraint kind => [(none, kind)]
  | .namedConstraint name kinds => kinds.map fun kind => (name, kind)
  | .column _ | .bareColumn _ | .expression _ => []

theorem Defining.applyElement_eq_foldl (state : Defining) (element : Element) :
    state.applyElement element =
      (constraintsOf element).foldl (fun state constraint => state.apply constraint.1 constraint.2)
        state := by
  cases element <;> simp [applyElement, constraintsOf, List.foldl_map]

theorem foldl_applyElement (state : Defining) (elements : List Element) :
    elements.foldl Defining.applyElement state =
      (elements.flatMap constraintsOf).foldl
        (fun state constraint => state.apply constraint.1 constraint.2) state := by
  rw [List.foldl_flatMap]
  congr 1
  funext state element
  exact state.applyElement_eq_foldl element

/-! What one constraint does to the table under definition. -/

theorem Table.ownKey?_congr {table other : Table} (same : table.outline = other.outline) :
    table.ownKey? = other.ownKey? := by
  funext key
  simp only [ownKey?, position?_congr same, resolved_congr same]

theorem Table.ownRefusal?_congr {table other : Table} (same : table.outline = other.outline) :
    table.ownRefusal? = other.ownRefusal? := by
  funext key
  simp only [ownRefusal?, position?_congr same, name_of_outline same]

theorem constraintWarnings_congr {table other : Table} (same : table.outline = other.outline) :
    constraintWarnings table = constraintWarnings other := by
  funext constraint
  have missing : table.missing = other.missing := funext (Table.missing_congr same)
  simp only [constraintWarnings, Table.ownRefusal?_congr same, Table.name_of_outline same, missing]

/-- The state after changes, with what they add to the lists. -/
def Defining.after (state : Defining) (changes : List Change) (keys : List ForeignKey)
    (warnings : List Warning) (key : Bool) : Defining :=
  { table := (Change.applyAll (state.table, state.ids) changes).1
    ids := (Change.applyAll (state.table, state.ids) changes).2
    foreignKeys := state.foreignKeys ++ keys
    warnings := state.warnings ++ warnings
    hasExplicitKey := state.hasExplicitKey || key }

theorem Defining.foreignKeyColumn_eq (state : Defining) (key : ForeignKey) :
    state.foreignKeyColumn key = state.after [.link key.column key.target]
      (state.table.ownKey? key).toList (state.table.ownRefusal? key).toList false := by
  simp only [foreignKeyColumn, after, Change.applyAll_cons, Change.applyAll_nil, Change.apply_link,
    Table.ownKey?, Table.ownRefusal?, Table.positions, List.filterMap_cons, List.filterMap_nil]
  cases found : state.table.position? key.column with
  | none => simp [warn]
  | some place =>
    simp only [← Table.modifyColumn_eq_mark]
    simp
    rfl

theorem Defining.foldl_foreignKeyColumn (state : Defining) (keys : List ForeignKey) :
    keys.foldl Defining.foreignKeyColumn state =
      state.after (keys.map fun key => .link key.column key.target)
        (keys.filterMap state.table.ownKey?) (keys.filterMap state.table.ownRefusal?) false := by
  induction keys generalizing state with
  | nil => simp [after]
  | cons key rest ih =>
    have same := Change.outline_apply (state.table, state.ids) (.link key.column key.target)
    rw [List.foldl_cons, ih, foreignKeyColumn_eq]
    simp only [after, Change.applyAll_cons, Change.applyAll_nil, Table.ownKey?_congr same,
      Table.ownRefusal?_congr same]
    cases kept : state.table.ownKey? key <;> cases dropped : state.table.ownRefusal? key <;>
      simp [kept, dropped]

theorem Defining.apply_foreignKey (state : Defining) (name : Option String) (columns : List String)
    (reference : Option Reference) (onDelete onUpdate : Option String) :
    state.apply name (.foreignKey columns reference onDelete onUpdate) =
      (constraintKeys state.table.name
        (name, .foreignKey columns reference onDelete onUpdate)).foldl Defining.foreignKeyColumn
        state := by
  cases reference <;> rfl

theorem table_constraintKeys {table : String} {constraint : Option String × Constraint}
    {key : ForeignKey} (member : key ∈ constraintKeys table constraint) : key.table = table := by
  unfold constraintKeys at member
  split at member
  · obtain ⟨place, bound, rfl⟩ := List.mem_mapIdx.mp member
    rfl
  · cases member

theorem mark_constraintChanges {constraint : Option String × Constraint} {change : Change}
    (member : change ∈ constraintChanges constraint) :
    (change.mark = .primaryKey ∧ (keyColumns? constraint.2).isSome) ∨ change.mark = .unique ∨
      change.mark = .indexed ∨ ∃ target, change.mark = .foreignKey target := by
  unfold constraintChanges at member
  split at member
  case h_1 names declared =>
    rw [List.mem_singleton] at member
    subst member
    exact Or.inl ⟨rfl, by rw [declared]; rfl⟩
  case h_2 =>
    rw [List.mem_singleton] at member
    subst member
    exact Or.inr (Or.inl rfl)
  case h_3 =>
    rw [List.mem_singleton] at member
    subst member
    exact Or.inr (Or.inr (Or.inl rfl))
  case h_4 =>
    obtain ⟨key, -, rfl⟩ := List.mem_map.mp member
    exact Or.inr (Or.inr (Or.inr ⟨key.target, rfl⟩))

theorem Defining.apply_eq (state : Defining) (constraint : Option String × Constraint) :
    state.apply constraint.1 constraint.2 = state.after (constraintChanges constraint)
      ((constraintKeys state.table.name constraint).filterMap state.table.ownKey?)
      (constraintWarnings state.table constraint) (keyColumns? constraint.2).isSome := by
  obtain ⟨name, kind⟩ := constraint
  cases kind with
  | primaryKey columns =>
    cases columns with
    | none => simp [apply, after, constraintChanges, constraintKeys, constraintWarnings, keyColumns?]
    | some columns =>
      simp [apply, primaryKey, after, constraintChanges, constraintKeys, constraintWarnings,
        keyColumns?, foldl_markKeyColumn, Change.apply_key]
  | unique target =>
    have added : state.unique target name =
        { state with
          table := (state.table.addUnique state.ids (uniqueName name target) (uniqueColumns target)).1
          ids := (state.table.addUnique state.ids (uniqueName name target) (uniqueColumns target)).2 } := by
      cases target <;> rfl
    simp [apply, added, Table.addUnique_eq_apply, after, constraintChanges, constraintKeys,
      constraintWarnings, keyColumns?]
  | foreignKey columns reference onDelete onUpdate =>
    rw [apply_foreignKey, foldl_foreignKeyColumn, constraintChanges_foreignKey state.table.name]
    simp [constraintWarnings, keyColumns?]
  | index definition =>
    have added : state.index definition =
        { state with
          table := (state.table.addPlainIndex state.ids (definition.name.map Name.text)
            (definition.parts.map fun part => part.target.keyName) (indexKind definition.kind)).1
          ids := (state.table.addPlainIndex state.ids (definition.name.map Name.text)
            (definition.parts.map fun part => part.target.keyName) (indexKind definition.kind)).2 } := by
      rfl
    simp [apply, added, Table.addPlainIndex_eq_apply, after, constraintChanges, constraintKeys,
      constraintWarnings, keyColumns?]
  | _ => simp [apply, after, constraintChanges, constraintKeys, constraintWarnings, keyColumns?]

theorem Defining.foldl_apply (state : Defining) (constraints : List (Option String × Constraint)) :
    constraints.foldl (fun state constraint => state.apply constraint.1 constraint.2) state =
      state.after (constraints.flatMap constraintChanges)
        (constraints.flatMap fun constraint =>
          (constraintKeys state.table.name constraint).filterMap state.table.ownKey?)
        (constraints.flatMap (constraintWarnings state.table))
        (constraints.any fun constraint => (keyColumns? constraint.2).isSome) := by
  -- keys and warnings are read off the outline, which is that of the first state throughout
  induction constraints generalizing state with
  | nil => simp [after]
  | cons constraint rest ih =>
    have same := Change.outline_applyAll (state.table, state.ids) (constraintChanges constraint)
    rw [List.foldl_cons, ih, apply_eq]
    simp only [after, Table.ownKey?_congr same, constraintWarnings_congr same,
      Table.name_of_outline same, List.flatMap_cons, Change.applyAll_append, List.append_assoc,
      List.any_cons, Bool.or_assoc]

/-! The definition as a whole. -/

/-- The name that a definition gives to its table. -/
def tableName (definition : CreateTable) : String := String.ofList (trim definition.name.toList)

/-- The definition with these elements in its parentheses. -/
def listing (definition : CreateTable) (elements : List Element) : CreateTable :=
  { definition with elements := some elements }

@[simp] theorem entries_listing (definition : CreateTable) (elements : List Element) :
    (listing definition elements).entries = elements :=
  rfl

@[simp] theorem properties_listing (definition : CreateTable) (elements : List Element) :
    (listing definition elements).properties = definition.properties :=
  rfl

@[simp] theorem tableName_listing (definition : CreateTable) (elements : List Element) :
    tableName (listing definition elements) = tableName definition :=
  rfl

/-- The constraints that stand in a definition beside its columns. -/
def tableConstraints (definition : CreateTable) : List (Option String × Constraint) :=
  definition.entries.flatMap constraintsOf

def Table.decorate (table : Table) (properties : List Property) : Table :=
  properties.foldl Table.applyProperty table

def constrained (ids : IdCounter) (dialect : Dialect) (definition : CreateTable) : Defining :=
  definition.entries.foldl Defining.applyElement
    (startTable (tableName definition) dialect definition.entries ids)

theorem constrained_eq (ids : IdCounter) (dialect : Dialect) (definition : CreateTable) :
    constrained ids dialect definition =
      let start := startTable (tableName definition) dialect definition.entries ids
      start.after ((tableConstraints definition).flatMap constraintChanges)
        ((tableConstraints definition).flatMap fun constraint =>
          (constraintKeys start.table.name constraint).filterMap start.table.ownKey?)
        ((tableConstraints definition).flatMap (constraintWarnings start.table))
        ((tableConstraints definition).any fun constraint => (keyColumns? constraint.2).isSome) := by
  rw [constrained, foldl_applyElement, Defining.foldl_apply]
  rfl

theorem columnParts?_constraint {element : Element} {constraint : Option String × Constraint}
    (member : constraint ∈ constraintsOf element) : columnParts? element = none := by
  cases element with
  | constraint kind | namedConstraint name kinds | expression value => rfl
  | column definition | bareColumn name => cases member

theorem startTable_congr {elements others : List Element}
    (same : elements.filterMap columnParts? = others.filterMap columnParts?) (name : String)
    (dialect : Dialect) (ids : IdCounter) :
    startTable name dialect elements ids = startTable name dialect others ids := by
  simp only [startTable, same]

theorem name_constrained (ids : IdCounter) (dialect : Dialect) (definition : CreateTable) :
    (constrained ids dialect definition).table.name = tableName definition := by
  rw [constrained_eq]
  exact Table.name_of_outline (Change.outline_applyAll _ _)

/-- The definition of a table without its name, which is all that can be wrong with it. -/
def definedTable (ids : IdCounter) (dialect : Dialect) (definition : CreateTable) : DefinedTable :=
  let defined := (constrained ids dialect definition).finish
  { defined with table := defined.table.decorate definition.properties }

theorem defineTable_eq (ids : IdCounter) (dialect : Dialect) (definition : CreateTable) :
    defineTable ids dialect definition =
      if (tableName definition).isEmpty then .error {}
      else .ok (definedTable ids dialect definition, (constrained ids dialect definition).ids) :=
  rfl

/-! Properties are apart from the columns. -/

theorem Table.applyProperty_apart (table : Table) (property : Property) :
    (table.applyProperty property).name = table.name ∧
      (table.applyProperty property).columns = table.columns ∧
      (table.applyProperty property).indexes = table.indexes := by
  cases property <;> simp [applyProperty]

theorem Table.decorate_with (table : Table) (columns : List Column) (indexes : List Index)
    (properties : List Property) :
    { table with columns, indexes }.decorate properties =
      { table.decorate properties with columns, indexes } := by
  induction properties generalizing table with
  | nil => rfl
  | cons property rest ih =>
    have step : { table with columns, indexes }.applyProperty property =
        { table.applyProperty property with columns, indexes } := by
      cases property <;> simp only [applyProperty]
    simp only [decorate, List.foldl_cons, step]
    exact ih _

theorem Table.decorate_apart (table : Table) (properties : List Property) :
    (table.decorate properties).name = table.name ∧
      (table.decorate properties).columns = table.columns ∧
      (table.decorate properties).indexes = table.indexes := by
  induction properties generalizing table with
  | nil => exact ⟨rfl, rfl, rfl⟩
  | cons property rest ih =>
    obtain ⟨name, columns, indexes⟩ := ih (table.applyProperty property)
    obtain ⟨name', columns', indexes'⟩ := table.applyProperty_apart property
    exact ⟨name.trans name', columns.trans columns', indexes.trans indexes'⟩

theorem Table.decorate_mark (table : Table) (places : List Nat) (mark : Mark)
    (properties : List Property) :
    (table.mark places mark).decorate properties = (table.decorate properties).mark places mark := by
  have apart := table.decorate_apart properties
  have split := table.decorate_with (table.mark places mark).columns table.indexes properties
  simp only [Table.mark] at split ⊢
  rw [split, apart.2.1, ← apart.2.2]

theorem Table.outline_decorate (table : Table) (properties : List Property) :
    (table.decorate properties).outline = table.outline := by
  have apart := table.decorate_apart properties
  simp only [outline, apart.1, apart.2.1]

/-! The implied key. -/

/-- The choice looks at the small names of the columns and at which of them are foreign keys. -/
theorem implicitKey?_congr_small {columns others : List Column}
    (same : columns.map (fun column => (lower column.name.toList, column.isForeignKey)) =
      others.map fun column => (lower column.name.toList, column.isForeignKey)) (table : String) :
    implicitKey? table columns = implicitKey? table others := by
  have reading : ∀ columns : List Column, implicitKey? table columns =
      let pairs := columns.map fun column => (lower column.name.toList, column.isForeignKey)
      if isJunctionName table.toList && pairs.countP Prod.snd ≥ 2 then pairs.findIdx? Prod.snd
      else
        firstFitting (fun pattern name => name == pattern) (keyPatterns table.toList) (pairs.map Prod.fst)
          <|> firstFitting occursIn (keyPatterns table.toList) (pairs.map Prod.fst)
          <|> pairs.findIdx? (fun pair => !pair.2)
          <|> pairs.findIdx? fun _ => true := by
    intro columns
    simp only [implicitKey?, List.map_map, List.countP_map, List.findIdx?_map, Function.comp_def]
  rw [reading, reading, same]

theorem implicitKey?_congr {columns others : List Column}
    (same : columns.map (fun column => (column.name, column.isForeignKey)) =
      others.map fun column => (column.name, column.isForeignKey)) (table : String) :
    implicitKey? table columns = implicitKey? table others := by
  have small := congrArg (List.map fun pair => (lower pair.1.toList, pair.2)) same
  simp only [List.map_map, Function.comp_def] at small
  exact implicitKey?_congr_small small table

/-- Where the key is that is implied by what is declared, if one is. -/
def Defining.impliedPlaces (state : Defining) : List Nat :=
  if state.hasExplicitKey then [] else (implicitKey? state.table.name state.table.columns).toList

def Defining.keyWarnings (state : Defining) : List Warning :=
  if state.hasExplicitKey || (implicitKey? state.table.name state.table.columns).isSome then []
  else [.noDetectableKey state.table.name]

theorem Defining.finish_eq (state : Defining) : state.finish =
    { table := state.table.mark state.impliedPlaces .primaryKey
      foreignKeys := state.foreignKeys
      warnings := state.warnings ++ state.keyWarnings
      hasExplicitKey := state.hasExplicitKey
      impliedKey := state.impliedPlaces.head?.bind fun place =>
        state.table.columns[place]?.map Column.name } := by
  unfold finish impliedPlaces keyWarnings
  split
  · next explicit => simp [explicit]
  · next implied =>
    have explicit : state.hasExplicitKey = false := by simpa using implied
    split
    · next place found =>
      rw [Table.modifyColumn_markPrimaryKey]
      simp [explicit, found]
    · next missing => simp [explicit, missing, warn]

theorem definedTable_keyed (ids : IdCounter) (dialect : Dialect) (definition : CreateTable)
    (keyed : (constrained ids dialect definition).hasExplicitKey = true) :
    definedTable ids dialect definition =
      { table := (constrained ids dialect definition).table.decorate definition.properties
        foreignKeys := (constrained ids dialect definition).foreignKeys
        warnings := (constrained ids dialect definition).warnings
        hasExplicitKey := true
        impliedKey := none } := by
  simp [definedTable, Defining.finish, keyed]

theorem name_definedTable (ids : IdCounter) (dialect : Dialect) (definition : CreateTable) :
    (definedTable ids dialect definition).table.name = tableName definition := by
  simp only [definedTable, (Table.decorate_apart _ _).1, Defining.finish_eq, Table.mark,
    name_constrained]

theorem outline_constrained (ids : IdCounter) (dialect : Dialect) (definition : CreateTable) :
    (constrained ids dialect definition).table.outline =
      (startTable (tableName definition) dialect definition.entries ids).table.outline := by
  rw [constrained_eq]
  exact Change.outline_applyAll _ _

theorem warnings_definedTable (ids : IdCounter) (dialect : Dialect) (definition : CreateTable) :
    let state := constrained ids dialect definition
    (definedTable ids dialect definition).warnings =
      (tableConstraints definition).flatMap (constraintWarnings state.table) ++ state.keyWarnings := by
  intro state
  have warnings : state.warnings =
      (tableConstraints definition).flatMap (constraintWarnings state.table) := by
    rw [constraintWarnings_congr (outline_constrained ids dialect definition)]
    simp only [state, constrained_eq]
    rfl
  rw [← warnings, definedTable, Defining.finish_eq]

/-! Whether a key is declared. -/

def isReference : Constraint → Bool
  | .reference _ => true
  | _ => false

def isColumnKey : Constraint → Bool
  | .primaryKey none => true
  | _ => false

/-- The constraints of a column that count: those before the first reference. -/
def effective (constraints : List ColumnConstraint) : List ColumnConstraint :=
  constraints.takeWhile fun constraint => !isReference constraint.kind

def declaresColumnKey (constraints : List ColumnConstraint) : Bool :=
  (effective constraints).any fun constraint => isColumnKey constraint.kind

/-- Whether a primary key is declared, with a column or for the whole table. -/
def declaresKey (definition : CreateTable) : Bool :=
  (definition.entries.filterMap columnParts?).any (fun parts => declaresColumnKey parts.2.2) ||
    (tableConstraints definition).any fun constraint => (keyColumns? constraint.2).isSome

theorem Column.isPrimaryKey_apply (dialect : Dialect) (column : Column) (kind : Constraint) :
    (column.apply dialect kind).isPrimaryKey = (column.isPrimaryKey || isColumnKey kind) := by
  unfold Column.apply isColumnKey
  split <;> simp_all [Column.markPrimaryKey, Column.markUnique]

/-- The first reference among the constraints of a column, with its name. -/
def inlineReference? (constraints : List ColumnConstraint) : Option (Option String × Reference) :=
  constraints.findSome? fun constraint => match constraint.kind with
    | .reference reference => some (constraint.name, reference)
    | _ => none

def Column.declare (dialect : Dialect) (column : Column) (constraints : List ColumnConstraint) :
    Column :=
  (effective constraints).foldl (fun column constraint => column.apply dialect constraint.kind) column

@[simp] theorem Column.name_apply (dialect : Dialect) (column : Column) (kind : Constraint) :
    (column.apply dialect kind).name = column.name := by
  unfold Column.apply
  split <;> rfl

@[simp] theorem Column.target_apply (dialect : Dialect) (column : Column) (kind : Constraint) :
    (column.apply dialect kind).target = column.target := by
  unfold Column.apply
  split <;> rfl

/-- A reading of the column that every constraint leaves alone is left alone by all of them. -/
theorem Column.declare_kept {α : Type} (reading : Column → α) (dialect : Dialect)
    (kept : ∀ column kind, reading (Column.apply dialect column kind) = reading column)
    (column : Column) (constraints : List ColumnConstraint) :
    reading (column.declare dialect constraints) = reading column := by
  unfold Column.declare
  induction effective constraints generalizing column with
  | nil => rfl
  | cons constraint rest ih => rw [List.foldl_cons, ih, kept]

theorem Column.isPrimaryKey_declare (dialect : Dialect) (column : Column)
    (constraints : List ColumnConstraint) :
    (column.declare dialect constraints).isPrimaryKey =
      (column.isPrimaryKey || declaresColumnKey constraints) := by
  unfold Column.declare declaresColumnKey
  induction effective constraints generalizing column with
  | nil => simp
  | cons constraint rest ih =>
    rw [List.foldl_cons, ih, isPrimaryKey_apply, List.any_cons, Bool.or_assoc]

theorem Column.applyAll_eq (table : String) (dialect : Dialect) (column : Column)
    (constraints : List ColumnConstraint) :
    column.applyAll table dialect constraints =
      match inlineReference? constraints with
      | some (name, reference) =>
        let key := referenceKey table column.name reference 0 name
        ((column.declare dialect constraints).markForeignKey key.target, some key)
      | none => (column.declare dialect constraints, none) := by
  induction constraints generalizing column with
  | nil => rfl
  | cons constraint rest ih =>
    obtain ⟨name, kind⟩ := constraint
    by_cases stops : isReference kind
    · cases kind <;> simp [isReference] at stops
      rfl
    · have step : column.applyAll table dialect (⟨name, kind⟩ :: rest) =
          (column.apply dialect kind).applyAll table dialect rest := by
        cases kind <;> first | rfl | simp [isReference] at stops
      have found : inlineReference? (⟨name, kind⟩ :: rest) = inlineReference? rest := by
        cases kind <;> first | rfl | simp [isReference] at stops
      have declared : column.declare dialect (⟨name, kind⟩ :: rest) =
          (column.apply dialect kind).declare dialect rest := by
        simp [Column.declare, effective, stops]
      rw [step, ih, found, declared, name_apply]

/-! The columns. -/

theorem fst_defineColumn (table : String) (dialect : Dialect) (id : String)
    (parts : String × Option DataType × List ColumnConstraint) :
    (defineColumn table dialect id parts).1.isPrimaryKey = declaresColumnKey parts.2.2 := by
  obtain ⟨name, type, constraints⟩ := parts
  simp only [defineColumn, Column.applyAll_eq]
  cases inlineReference? constraints <;>
    simp [Column.close, Column.markForeignKey, Column.isPrimaryKey_declare, Column.fresh]

/-- A reading that also links and the end of the definition leave alone is that of a fresh column. -/
theorem defineColumn_kept {α : Type} (reading : Column → α) (table : String) (dialect : Dialect)
    (kept : ∀ column kind, reading (Column.apply dialect column kind) = reading column)
    (linked : ∀ column target, reading (Column.markForeignKey column target) = reading column)
    (closed : ∀ column, reading (Column.close column) = reading column) (id : String)
    (part : String × Option DataType × List ColumnConstraint) :
    reading (defineColumn table dialect id part).1 = reading (Column.fresh id part.1 part.2.1) := by
  obtain ⟨name, type, constraints⟩ := part
  have declared := Column.declare_kept reading dialect kept (Column.fresh id name type) constraints
  simp only [defineColumn, Column.applyAll_eq, closed]
  cases inlineReference? constraints with
  | none => exact declared
  | some inline => rw [linked, declared]

theorem mem_defineColumns {table : String} {dialect : Dialect} {ids : IdCounter}
    {parts : List (String × Option DataType × List ColumnConstraint)}
    {defined : Column × Option ForeignKey}
    (member : defined ∈ (defineColumns table dialect ids parts).1) :
    ∃ id, ∃ part ∈ parts, defined = defineColumn table dialect id part := by
  induction parts generalizing ids with
  | nil => cases member
  | cons part rest ih =>
    simp only [defineColumns, List.mem_cons] at member
    rcases member with rfl | member
    · exact ⟨_, part, List.mem_cons_self, rfl⟩
    · obtain ⟨id, other, inside, rfl⟩ := ih member
      exact ⟨id, other, List.mem_cons_of_mem _ inside, rfl⟩

theorem map_defineColumns {α : Type} (reading : Column → α) {table : String} {dialect : Dialect}
    {value : String × Option DataType × List ColumnConstraint → α}
    (defined : ∀ id part, reading (defineColumn table dialect id part).1 = value part) (ids : IdCounter)
    (parts : List (String × Option DataType × List ColumnConstraint)) :
    ((defineColumns table dialect ids parts).1.map Prod.fst).map reading = parts.map value := by
  induction parts generalizing ids with
  | nil => rfl
  | cons part rest ih => simp only [defineColumns, List.map_cons, defined, ih]

theorem hasExplicitKey_start (name : String) (dialect : Dialect) (elements : List Element)
    (ids : IdCounter) : (startTable name dialect elements ids).hasExplicitKey =
      (elements.filterMap columnParts?).any fun parts => declaresColumnKey parts.2.2 := by
  have flags := map_defineColumns Column.isPrimaryKey (fst_defineColumn name dialect) ids
    (elements.filterMap columnParts?)
  have found := congrArg (fun flags => flags.any fun flag => flag) flags
  simpa only [startTable, Table.hasPrimaryKey, List.any_map, Function.comp_def] using found

theorem hasExplicitKey_constrained (ids : IdCounter) (dialect : Dialect) (definition : CreateTable) :
    (constrained ids dialect definition).hasExplicitKey = declaresKey definition := by
  rw [constrained_eq]
  simp only [Defining.after, hasExplicitKey_start, declaresKey]

end DdlSchema.Schema
