import DdlSchema.Proofs.Schema.ForeignKeys
import DdlSchema.Proofs.Schema.Indexing
import DdlSchema.Proofs.Schema.KeyPlacement

/-! A defined table shows what its definition declares and nothing else. Marks are only ever added, so a
flag of a column is set exactly if its own part of the definition sets it or some constraint of the table
that names it does; the implied key is the one flag beyond that. -/

set_option autoImplicit false

namespace DdlSchema.Schema

open DdlSchema.Ddl DdlSchema.Text

/-! What is declared. -/

/-- The elements that are columns: their names, types and constraints. -/
def columnParts (definition : CreateTable) :
    List (String × Option DataType × List ColumnConstraint) :=
  definition.entries.filterMap columnParts?

def isColumnUnique : Constraint → Bool
  | .unique _ => true
  | _ => false

def declaresColumnUnique (constraints : List ColumnConstraint) : Bool :=
  (effective constraints).any fun constraint => isColumnUnique constraint.kind

/-- The columns that a constraint of the table names as its primary key. -/
def keyNames (constraint : Constraint) : List String := (keyColumns? constraint).getD []

def uniqueNames : Constraint → List String
  | .unique target => uniqueColumns target
  | _ => []

def indexNames : Constraint → List String
  | .index definition => definition.parts.map fun part => part.target.keyName
  | _ => []

def linkNames : Constraint → List String
  | .foreignKey columns (some _) _ _ => columns
  | _ => []

def tableNamesOf (names : Constraint → List String) (definition : CreateTable) : List String :=
  (tableConstraints definition).flatMap fun constraint => names constraint.2

/-- The column at the place is the one that some of the names stand for. -/
def Table.Targets (table : Table) (names : List String) (place : Nat) : Prop :=
  ∃ name ∈ names, table.position? name = some place

/-- What is to be said of names that stand for no column, constraint by constraint. -/
def unresolved (definition : CreateTable) (table : Table) : List Warning :=
  (tableConstraints definition).flatMap fun constraint =>
    (table.missing (keyNames constraint.2)).map (.keyColumnMissing · table.name) ++
      (table.missing (linkNames constraint.2)).map (.foreignKeyColumnMissing · table.name)

/-- The flags of a column are those that are declared for it. -/
structure Column.Mirrors (column : Column) (definition : CreateTable) (table : Table) (place : Nat)
    (part : String × Option DataType × List ColumnConstraint) : Prop where
  unique : column.isUnique = true ↔
    declaresColumnUnique part.2.2 = true ∨ table.Targets (tableNamesOf uniqueNames definition) place
  indexed : column.isIndexed = true ↔ table.Targets (tableNamesOf indexNames definition) place
  linked : column.isForeignKey = true ↔
    (inlineReference? part.2.2).isSome = true ∨
      table.Targets (tableNamesOf linkNames definition) place
  key : column.isPrimaryKey = true ↔
    if declaresKey definition then
      declaresColumnKey part.2.2 = true ∨ table.Targets (tableNamesOf keyNames definition) place
    else table.guess? = some place

/-- The table has the columns of its definition under ids in a row, with the flags declared for them. A
key is implied where none is declared and there are columns, and what is wrong is told in order. -/
structure DefinedTable.Mirrors (defined : DefinedTable) (definition : CreateTable) (ids : IdCounter) :
    Prop where
  name : defined.table.name = tableName definition
  names : defined.table.columns.map Column.name = (columnParts definition).map Prod.fst
  columnIds : defined.table.columnIds =
    (List.range' (ids.count "col" + 1) (columnParts definition).length).map (IdCounter.numbered "col")
  columns : ∀ (place : Nat) (column : Column) (part : String × Option DataType × List ColumnConstraint),
    defined.table.columns[place]? = some column → (columnParts definition)[place]? = some part →
    column.Mirrors definition defined.table place part
  declared : declaresKey definition = true → defined.impliedKey = none
  implied : declaresKey definition = false → columnParts definition ≠ [] →
    ∃ place column, defined.table.guess? = some place ∧
      defined.table.columns[place]? = some column ∧ defined.impliedKey = some column.name
  warnings : defined.warnings = unresolved definition defined.table ++
    if declaresKey definition || !(columnParts definition).isEmpty then []
    else [.noDetectableKey defined.table.name]

/-! Marks add up. -/

/-- A flag is set behind changes if it was set before or one of them sets it. -/
theorem Change.flag_applyAll (flag : Column → Bool) (sets : Mark → Bool) (state : Table × IdCounter)
    {changes : List Change}
    (marks : ∀ change ∈ changes, ∀ column,
      flag (change.mark.apply column) = (flag column || sets change.mark)) (place : Nat) :
    (applyAll state changes).1.columns[place]?.map flag =
      state.1.columns[place]?.map fun column => flag column ||
        changes.any fun change => sets change.mark && decide (place ∈ change.positions state.1) := by
  induction changes generalizing state with
  | nil => simp
  | cons change rest ih =>
    obtain ⟨first, later⟩ := List.forall_mem_cons.mp marks
    have kept : ∀ other : Change, other.positions (apply state change).1 = other.positions state.1 :=
      fun other => other.positions_congr (outline_apply state change)
    rw [applyAll_cons, ih _ later, columns_apply, Table.getElem?_mark, Option.map_map]
    simp only [kept, List.any_cons]
    congr 1
    funext column
    by_cases inside : place ∈ change.positions state.1 <;> simp [inside, first, Bool.or_assoc]

def markedNames (sets : Mark → Bool) (constraint : Option String × Constraint) : List String :=
  (constraintChanges constraint).flatMap fun change =>
    if sets change.mark then change.columns.getD [] else []

theorem columns_constraintChanges {constraint : Option String × Constraint} {change : Change}
    (member : change ∈ constraintChanges constraint) : ∃ names, change.columns = some names := by
  unfold constraintChanges at member
  split at member
  · exact ⟨_, congrArg Change.columns (List.mem_singleton.mp member)⟩
  · exact ⟨_, congrArg Change.columns (List.mem_singleton.mp member)⟩
  · exact ⟨_, congrArg Change.columns (List.mem_singleton.mp member)⟩
  · obtain ⟨key, -, rfl⟩ := List.mem_map.mp member
    exact ⟨_, rfl⟩

theorem Table.mem_positions {table : Table} {names : List String} {place : Nat} :
    place ∈ table.positions names ↔ table.Targets names place :=
  List.mem_filterMap

theorem Table.targets_congr {table other : Table} (same : table.outline = other.outline)
    (names : List String) (place : Nat) : table.Targets names place ↔ other.Targets names place := by
  simp only [Targets, position?_congr same]

theorem any_constraintChanges (sets : Mark → Bool) (table : Table) (place : Nat)
    (constraints : List (Option String × Constraint)) :
    ((constraints.flatMap constraintChanges).any fun change =>
        sets change.mark && decide (place ∈ change.positions table)) = true ↔
      table.Targets (constraints.flatMap (markedNames sets)) place := by
  simp only [List.any_eq_true, Bool.and_eq_true, decide_eq_true_eq]
  constructor
  · rintro ⟨change, member, set, inside⟩
    obtain ⟨constraint, listed, made⟩ := List.mem_flatMap.mp member
    obtain ⟨names, columns⟩ := columns_constraintChanges made
    simp only [Change.positions, columns] at inside
    obtain ⟨name, named, found⟩ := Table.mem_positions.mp inside
    refine ⟨name, List.mem_flatMap.mpr ⟨constraint, listed, ?_⟩, found⟩
    exact List.mem_flatMap.mpr ⟨change, made, by simpa [set, columns] using named⟩
  · rintro ⟨name, member, found⟩
    obtain ⟨constraint, listed, inside⟩ := List.mem_flatMap.mp member
    obtain ⟨change, made, named⟩ := List.mem_flatMap.mp inside
    obtain ⟨names, columns⟩ := columns_constraintChanges made
    split at named
    · next set =>
      refine ⟨change, List.mem_flatMap.mpr ⟨constraint, listed, made⟩, set, ?_⟩
      simp only [Change.positions, columns]
      exact Table.mem_positions.mpr ⟨name, by simpa [columns] using named, found⟩
    · cases named

/-! The four flags. -/

/-- A flag that marks of these kinds set, and how it is declared: by these constraints of its column, or
by a constraint of the table with the column among these names. -/
structure Declares (flag : Column → Bool) (sets : Mark → Bool) (own : List ColumnConstraint → Bool)
    (names : Constraint → List String) : Prop where
  marked : ∀ mark ≠ Mark.noKey, ∀ column, flag (mark.apply column) = (flag column || sets mark)
  defined : ∀ table dialect id part, flag (defineColumn table dialect id part).1 = own part.2.2
  listed : ∀ constraint, markedNames sets constraint = names constraint.2

theorem Column.isUnique_declare (dialect : Dialect) (column : Column)
    (constraints : List ColumnConstraint) :
    (column.declare dialect constraints).isUnique =
      (column.isUnique || declaresColumnUnique constraints) := by
  have step : ∀ (column : Column) (kind : Constraint),
      (column.apply dialect kind).isUnique = (column.isUnique || isColumnUnique kind) := by
    intro column kind
    unfold Column.apply isColumnUnique
    split <;> simp_all [Column.markPrimaryKey, Column.markUnique]
  unfold Column.declare declaresColumnUnique
  induction effective constraints generalizing column with
  | nil => simp
  | cons constraint rest ih =>
    rw [List.foldl_cons, ih, step, List.any_cons, Bool.or_assoc]

theorem column_constraintKeys (table : String) (constraint : Option String × Constraint) :
    (constraintKeys table constraint).map ForeignKey.column = linkNames constraint.2 := by
  obtain ⟨name, kind⟩ := constraint
  cases kind with
  | foreignKey columns reference onDelete onUpdate =>
    cases reference with
    | none => rfl
    | some reference =>
      simp only [constraintKeys, linkNames, List.mapIdx_eq_zipIdx_map, List.map_map]
      exact List.zipIdx_map_fst 0 columns
  | _ => rfl

theorem markedNames_links (sets : Mark → Bool) (name : Option String) (columns : List String)
    (reference : Option Reference) (onDelete onUpdate : Option String) (value : Bool)
    (same : ∀ target, sets (.foreignKey target) = value) :
    markedNames sets (name, .foreignKey columns reference onDelete onUpdate) =
      if value then linkNames (.foreignKey columns reference onDelete onUpdate) else [] := by
  have columns := column_constraintKeys "" (name, .foreignKey columns reference onDelete onUpdate)
  rw [markedNames, constraintChanges_foreignKey "", ← columns, List.flatMap_map]
  cases value <;> simp [Change.link, same, List.map_eq_flatMap]

theorem declares_key : Declares Column.isPrimaryKey (fun mark => decide (mark = .primaryKey))
    declaresColumnKey keyNames where
  marked mark keeps column := by
    cases mark with
    | noKey => exact absurd rfl keeps
    | primaryKey => simp [Mark.apply, Column.markPrimaryKey]
    | _ => simp [Mark.apply, Column.markUnique, Column.markIndexed, Column.markForeignKey]
  defined := fst_defineColumn
  listed constraint := by
    obtain ⟨name, kind⟩ := constraint
    cases kind with
    | primaryKey columns =>
      cases columns with
      | none => rfl
      | some names => simp [markedNames, constraintChanges, Change.key, keyNames, keyColumns?]
    | foreignKey columns reference onDelete onUpdate =>
      exact markedNames_links _ _ _ _ _ _ false fun _ => rfl
    | _ => rfl

theorem declares_unique : Declares Column.isUnique (fun mark => decide (mark = .unique))
    declaresColumnUnique uniqueNames where
  marked mark _ column := mark.isUnique_apply column
  defined table dialect id part := by
    obtain ⟨name, type, constraints⟩ := part
    simp only [defineColumn, Column.applyAll_eq]
    cases inlineReference? constraints <;>
      simp [Column.close, Column.markForeignKey, Column.isUnique_declare, Column.fresh]
  listed constraint := by
    obtain ⟨name, kind⟩ := constraint
    cases kind with
    | primaryKey columns => cases columns <;> rfl
    | unique target => simp [markedNames, constraintChanges, Change.unique, uniqueNames]
    | foreignKey columns reference onDelete onUpdate =>
      exact markedNames_links _ _ _ _ _ _ false fun _ => rfl
    | _ => rfl

theorem declares_indexed : Declares Column.isIndexed (fun mark => decide (mark = .indexed))
    (fun _ => false) indexNames where
  marked mark _ column := mark.isIndexed_apply column
  defined := isIndexed_defineColumn
  listed constraint := by
    obtain ⟨name, kind⟩ := constraint
    cases kind with
    | primaryKey columns => cases columns <;> rfl
    | index definition => simp [markedNames, constraintChanges, Change.plainIndex, indexNames]
    | foreignKey columns reference onDelete onUpdate =>
      exact markedNames_links _ _ _ _ _ _ false fun _ => rfl
    | _ => rfl

theorem declares_link : Declares Column.isForeignKey Mark.isLink
    (fun constraints => (inlineReference? constraints).isSome) linkNames where
  marked mark _ column := by
    cases links : mark.isLink with
    | false => simp [Column.isForeignKey, Mark.target_apply links]
    | true =>
      cases mark with
      | foreignKey target => simp [Mark.apply, Column.isForeignKey, Column.markForeignKey]
      | _ => cases links
  defined table dialect id part := by
    obtain ⟨name, type, constraints⟩ := part
    have unlinked : ((Column.fresh id name type).declare dialect constraints).target = none :=
      Column.declare_kept Column.target dialect (Column.target_apply dialect) _ constraints
    simp only [defineColumn, Column.applyAll_eq]
    cases inlineReference? constraints with
    | none => simp [Column.close, Column.isForeignKey, unlinked]
    | some inline => rfl
  listed constraint := by
    obtain ⟨name, kind⟩ := constraint
    cases kind with
    | primaryKey columns => cases columns <;> rfl
    | foreignKey columns reference onDelete onUpdate =>
      exact markedNames_links _ _ _ _ _ _ true fun _ => rfl
    | _ => rfl

/-! The table as a whole. -/

section

variable (ids : IdCounter) (dialect : Dialect) (definition : CreateTable)

theorem columns_definedTable : (definedTable ids dialect definition).table.columns =
    ((constrained ids dialect definition).table.mark
      (constrained ids dialect definition).impliedPlaces .primaryKey).columns := by
  rw [definedTable, (Table.decorate_apart _ _).2.1, Defining.finish_eq]

theorem outline_definedTable : (definedTable ids dialect definition).table.outline =
    (constrained ids dialect definition).table.outline := by
  rw [definedTable, Table.outline_decorate, Defining.finish_eq, Change.outline_mark]

theorem guess?_definedTable : (definedTable ids dialect definition).table.guess? =
    (constrained ids dialect definition).table.guess? := by
  rw [definedTable, Table.guess?_decorate, Defining.finish_eq, Table.guess?_markKey]

theorem impliedPlaces_constrained : (constrained ids dialect definition).impliedPlaces =
    if declaresKey definition then [] else (definedTable ids dialect definition).table.guess?.toList := by
  rw [Defining.impliedPlaces, hasExplicitKey_constrained, guess?_definedTable]
  rfl

theorem names_definedTable : (definedTable ids dialect definition).table.columns.map Column.name =
    (columnParts definition).map Prod.fst := by
  have outline := (outline_definedTable ids dialect definition).trans
    (outline_constrained ids dialect definition)
  rw [Table.names_of_outline outline]
  exact map_defineColumns Column.name (fun id part => defineColumn_kept Column.name _ dialect
    (Column.name_apply dialect) (fun _ _ => rfl) (fun _ => rfl) id part) ids _

theorem columnIds_numbered : (definedTable ids dialect definition).table.columnIds =
    (List.range' (ids.count "col" + 1) (columnParts definition).length).map
      (IdCounter.numbered "col") := by
  have drawn := columnIds_definedTable ids dialect definition
  have count : (columnParts definition).length =
      (constrained ids dialect definition).ids.count "col" - ids.count "col" := by
    have lengths := congrArg List.length (names_definedTable ids dialect definition)
    have drawns := congrArg List.length drawn
    simp only [Table.columnIds, IdCounter.drawn, List.length_map, List.length_range'] at lengths drawns
    rw [← lengths, drawns]
  rw [drawn, IdCounter.drawn, count]

variable {ids dialect definition} {flag : Column → Bool} {sets : Mark → Bool}
  {own : List ColumnConstraint → Bool} {names : Constraint → List String} {place : Nat} {column : Column}
  {part : String × Option DataType × List ColumnConstraint}

theorem Declares.flag_constrained (declares : Declares flag sets own names)
    (here : (constrained ids dialect definition).table.columns[place]? = some column)
    (there : (columnParts definition)[place]? = some part) :
    flag column = true ↔ own part.2.2 = true ∨
      (constrained ids dialect definition).table.Targets (tableNamesOf names definition) place := by
  let start := startTable (tableName definition) dialect definition.entries ids
  have marks : ∀ change ∈ (tableConstraints definition).flatMap constraintChanges, ∀ column,
      flag (change.mark.apply column) = (flag column || sets change.mark) := by
    intro change member
    obtain ⟨constraint, -, made⟩ := List.mem_flatMap.mp member
    exact declares.marked _ (constraintChanges_keep made)
  -- the column as its own part of the definition makes it, then the changes of all constraints
  have first : start.table.columns[place]?.map flag = some (own part.2.2) := by
    have columns : start.table.columns.map flag = _ :=
      map_defineColumns flag (declares.defined (tableName definition) dialect) ids _
    rw [← List.getElem?_map, columns, List.getElem?_map]
    exact congrArg (Option.map fun part => own part.2.2) there
  obtain ⟨before, fresh, value⟩ := Option.map_eq_some_iff.mp first
  have changed := Change.flag_applyAll flag sets (start.table, start.ids) marks place
  have listed : (tableConstraints definition).flatMap (markedNames sets) =
      tableNamesOf names definition := by
    rw [tableNamesOf, funext declares.listed]
  have last : (Change.applyAll (start.table, start.ids)
      ((tableConstraints definition).flatMap constraintChanges)).1.columns[place]? = some column := by
    rw [constrained_eq] at here
    exact here
  rw [last, fresh, Option.map_some, Option.map_some, Option.some.injEq, value] at changed
  rw [changed, Bool.or_eq_true, any_constraintChanges, listed,
    Table.targets_congr (outline_constrained ids dialect definition)]

theorem Declares.flag_definedTable (declares : Declares flag sets own names)
    (here : (definedTable ids dialect definition).table.columns[place]? = some column)
    (there : (columnParts definition)[place]? = some part) :
    flag column = true ↔ (own part.2.2 = true ∨
      (definedTable ids dialect definition).table.Targets (tableNamesOf names definition) place) ∨
      sets .primaryKey = true ∧ place ∈ (constrained ids dialect definition).impliedPlaces := by
  rw [columns_definedTable, Table.getElem?_mark] at here
  obtain ⟨before, found, rfl⟩ := Option.map_eq_some_iff.mp here
  rw [Table.targets_congr (outline_definedTable ids dialect definition),
    ← declares.flag_constrained found there]
  split
  · next implied =>
    rw [declares.marked .primaryKey (by decide)]
    simp [implied]
  · next other => simp [other]

theorem undeclared_key (keyless : declaresKey definition = false)
    (there : (columnParts definition)[place]? = some part) (table : Table) :
    ¬(declaresColumnKey part.2.2 = true ∨
      table.Targets (tableNamesOf keyNames definition) place) := by
  obtain ⟨columns, constraints⟩ := Bool.or_eq_false_iff.mp keyless
  rintro (declared | ⟨name, listed, -⟩)
  · exact List.any_eq_false.mp columns part (List.mem_of_getElem? there) declared
  · obtain ⟨constraint, inside, named⟩ := List.mem_flatMap.mp listed
    have none := List.any_eq_false.mp constraints constraint inside
    unfold keyNames at named
    cases kind : keyColumns? constraint.2 with
    | none => simp [kind] at named
    | some names => exact none (by rw [kind]; rfl)

theorem mirrors_column
    (here : (definedTable ids dialect definition).table.columns[place]? = some column)
    (there : (columnParts definition)[place]? = some part) :
    column.Mirrors definition (definedTable ids dialect definition).table place part where
  unique := by simpa using declares_unique.flag_definedTable here there
  indexed := by simpa using declares_indexed.flag_definedTable here there
  linked := by simpa [Mark.isLink] using declares_link.flag_definedTable here there
  key := by
    have key := declares_key.flag_definedTable here there
    rw [impliedPlaces_constrained] at key
    cases keyed : declaresKey definition with
    | true => simpa [keyed] using key
    | false =>
      have nothing := undeclared_key keyed there (definedTable ids dialect definition).table
      simpa [keyed, nothing] using key

end

/-! The implied key, and what is wrong. -/

theorem firstFitting_lt {fits : List Char → List Char → Bool} {patterns names : List (List Char)}
    {place : Nat} (found : firstFitting fits patterns names = some place) : place < names.length := by
  obtain ⟨pattern, -, fit⟩ := List.exists_of_findSome?_eq_some found
  exact (List.findIdx?_eq_some_iff_getElem.mp fit).1

theorem implicitKey?_lt {table : String} {columns : List Column} {place : Nat}
    (found : implicitKey? table columns = some place) : place < columns.length := by
  simp only [implicitKey?] at found
  split at found
  · exact (List.findIdx?_eq_some_iff_getElem.mp found).1
  · simp only [Option.orElse_eq_orElse, Option.orElse_eq_or, Option.or_eq_some_iff] at found
    rcases found with equal | ⟨-, inside | ⟨-, free | ⟨-, any⟩⟩⟩
    · simpa using firstFitting_lt equal
    · simpa using firstFitting_lt inside
    · exact (List.findIdx?_eq_some_iff_getElem.mp free).1
    · exact (List.findIdx?_eq_some_iff_getElem.mp any).1

theorem isSome_implicitKey? (table : String) (columns : List Column) :
    (implicitKey? table columns).isSome = !columns.isEmpty := by
  cases columns with
  | nil => simp [implicitKey?, firstFitting]
  | cons column rest =>
    simp only [implicitKey?]
    split
    · next junction =>
      have linked : 0 < (column :: rest).countP Column.isForeignKey := by
        have two := of_decide_eq_true (Bool.and_eq_true_iff.mp junction).2
        omega
      obtain ⟨link, member, foreign⟩ := List.countP_pos_iff.mp linked
      rw [List.findIdx?_isSome]
      exact List.any_eq_true.mpr ⟨link, member, foreign⟩
    · simp

theorem refusals_eq (table : Table) (constraint : Option String × Constraint) :
    (constraintKeys table.name constraint).filterMap table.ownRefusal? =
      (table.missing (linkNames constraint.2)).map (.foreignKeyColumnMissing · table.name) := by
  rw [← column_constraintKeys table.name]
  induction constraintKeys table.name constraint with
  | nil => rfl
  | cons key rest ih =>
    by_cases unknown : (table.position? key.column).isNone <;>
      simpa [Table.ownRefusal?, Table.missing, unknown] using ih

theorem constraintWarnings_eq (table : Table) (constraint : Option String × Constraint) :
    constraintWarnings table constraint =
      (table.missing (keyNames constraint.2)).map (.keyColumnMissing · table.name) ++
        (table.missing (linkNames constraint.2)).map (.foreignKeyColumnMissing · table.name) := by
  rw [constraintWarnings, refusals_eq, keyNames]
  cases keyColumns? constraint.2 <;> rfl

section

variable (ids : IdCounter) (dialect : Dialect) (definition : CreateTable)

theorem isEmpty_columns_definedTable :
    (definedTable ids dialect definition).table.columns.isEmpty = (columnParts definition).isEmpty := by
  simpa using congrArg List.isEmpty (names_definedTable ids dialect definition)

theorem isSome_guess? : (definedTable ids dialect definition).table.guess?.isSome =
    !(columnParts definition).isEmpty := by
  rw [Table.guess?, isSome_implicitKey?, isEmpty_columns_definedTable]

theorem warnings_mirrored : (definedTable ids dialect definition).warnings =
    unresolved definition (definedTable ids dialect definition).table ++
      if declaresKey definition || !(columnParts definition).isEmpty then []
      else [.noDetectableKey (definedTable ids dialect definition).table.name] := by
  have guess := isSome_guess? ids dialect definition
  rw [guess?_definedTable, Table.guess?] at guess
  rw [warnings_definedTable, ← constraintWarnings_congr (outline_definedTable ids dialect definition),
    Defining.keyWarnings, guess, hasExplicitKey_constrained, name_definedTable, name_constrained,
    funext (constraintWarnings_eq _), name_definedTable, unresolved, name_definedTable]

theorem mirrors_definedTable : (definedTable ids dialect definition).Mirrors definition ids where
  name := name_definedTable ids dialect definition
  names := names_definedTable ids dialect definition
  columnIds := columnIds_numbered ids dialect definition
  columns _ _ _ := mirrors_column
  declared keyed := by
    rw [definedTable_keyed _ _ _ (by rw [hasExplicitKey_constrained, keyed])]
  implied keyless columns := by
    have found : (definedTable ids dialect definition).table.guess?.isSome = true := by
      rw [isSome_guess?, List.isEmpty_eq_false_iff.mpr columns]
      rfl
    obtain ⟨place, guessed⟩ := Option.isSome_iff_exists.mp found
    obtain ⟨column, here⟩ : ∃ column,
        (definedTable ids dialect definition).table.columns[place]? = some column :=
      ⟨_, List.getElem?_eq_getElem (implicitKey?_lt guessed)⟩
    refine ⟨place, column, guessed, here, ?_⟩
    have resolved := Table.resolved_congr (outline_definedTable ids dialect definition) place
    rw [here, Option.map_some] at resolved
    have places : (constrained ids dialect definition).impliedPlaces = [place] := by
      rw [impliedPlaces_constrained, keyless, guessed]
      rfl
    simp only [definedTable, Defining.finish_eq, places]
    exact resolved.symm
  warnings := warnings_mirrored ids dialect definition

/-- Every definition with a name gives a table that mirrors it. -/
theorem defined_as_declared (named : (tableName definition).isEmpty = false) :
    ∃ defined left, defineTable ids dialect definition = .ok (defined, left) ∧
      defined.Mirrors definition ids :=
  ⟨_, _, by rw [defineTable_eq, named]; rfl, mirrors_definedTable ids dialect definition⟩

end

/-- Of `a` and `b`, a constraint links `B` and another one keys the missing `c`, which declares a key. -/
theorem defined_as_declared_single :
    let linked : Element := .constraint (.foreignKey ["B"] (some ⟨"other", ["id"], []⟩) none none)
    let definition : CreateTable := ⟨"t", some [.column ⟨⟨"a", false⟩, some (.known "INT" []), []⟩,
      .constraint (.primaryKey (some ["c"])), .bareColumn ⟨"b", false⟩, linked], []⟩
    (tableName definition).isEmpty = false ∧
    ∃ defined left, defineTable .start .postgresql definition = .ok (defined, left) ∧
      defined.Mirrors definition .start := by
  intro linked definition
  have named : (tableName definition).isEmpty = false := by decide +kernel
  exact ⟨named, defined_as_declared .start .postgresql definition named⟩

end DdlSchema.Schema
