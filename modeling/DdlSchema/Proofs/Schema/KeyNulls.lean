import DdlSchema.Proofs.Schema.Parsing

/-! No column of a primary key holds nulls. This is so in every schema that is read from a script, and
every step that changes a schema keeps it so, whatever the steps and their order. -/

set_option autoImplicit false

namespace DdlSchema.Schema

open DdlSchema.Ddl DdlSchema.Statement

def AllColumns (P : Column → Prop) (tables : List Table) : Prop :=
  ∀ table ∈ tables, ∀ column ∈ table.columns, P column

/-! A property of columns that no mark destroys is one of all tables, if columns are defined with it. -/

section

variable {P : Column → Prop} (kept : ∀ mark column, P column → P (Mark.apply column mark))

include kept

theorem forall_mark {table : Table} (places : List Nat) (mark : Mark)
    (holds : ∀ column ∈ table.columns, P column) :
    ∀ column ∈ (table.mark places mark).columns, P column := by
  intro column member
  obtain ⟨place, bound, rfl⟩ := List.mem_mapIdx.mp member
  split
  · exact kept _ _ (holds _ (List.getElem_mem bound))
  · exact holds _ (List.getElem_mem bound)

theorem forall_definedTable
    (defined : ∀ table dialect id parts, P (defineColumn table dialect id parts).1)
    (ids : IdCounter) (dialect : Dialect) (definition : CreateTable) :
    ∀ column ∈ (definedTable ids dialect definition).table.columns, P column := by
  simp only [definedTable, (Table.decorate_apart _ _).2.1, Defining.finish_eq]
  refine forall_mark kept _ _ ?_
  rw [constrained_eq]
  refine Change.forall_applyAll _ (fun change _ => kept change.mark) fun column member => ?_
  obtain ⟨pair, inside, rfl⟩ := List.mem_map.mp member
  obtain ⟨id, parts, -, rfl⟩ := mem_defineColumns inside
  exact defined _ _ _ _

theorem allColumns_merge {tables : List Table} (keys : List ForeignKey) (alter : AlterConstraints)
    (ids : IdCounter) (holds : AllColumns P tables) :
    AllColumns P (merge tables keys alter ids).tables := by
  rw [merge_eq]
  exact forall_changeNamed _ (fun _ _ change _ => kept change.mark) holds

theorem allColumns_schemaOf
    (defined : ∀ table dialect id parts, P (defineColumn table dialect id parts).1)
    (definitions : List (Dialect × CreateTable)) (alter : AlterConstraints) :
    AllColumns P (schemaOf definitions alter).tables := by
  refine allColumns_merge kept _ _ _ fun table member => ?_
  obtain ⟨outcome, inside, rfl⟩ := mem_collect member
  obtain ⟨ids, dialect, definition, rfl⟩ := mem_defineTables inside
  exact forall_definedTable kept defined ids dialect definition

end

/-! Steps on a schema. -/

/-- One step that changes tables. Tables and columns are told by their positions. -/
inductive Step where
  | define (dialect : Dialect) (definition : CreateTable)
  | merge (foreignKeys : List ForeignKey) (alter : AlterConstraints)
  | markPrimaryKey (table column : Nat)
  | markForeignKey (table column : Nat) (target : Target)
  /-- Marks the column that is most likely meant as primary key. -/
  | detectKey (table : Nat)

def Table.detectKey (table : Table) : Table :=
  match implicitKey? table.name table.columns with
  | some place => table.modifyColumn place Column.markPrimaryKey
  | none => table

/-- A definition without a name leaves everything as it was, and so does a mark for no column. -/
def Step.run (state : List Table × IdCounter) : Step → List Table × IdCounter
  | .define dialect definition =>
    match defineTable state.2 dialect definition with
    | .ok (defined, ids) => (state.1 ++ [defined.table], ids)
    | .error _ => state
  | .merge foreignKeys alter =>
    let merged := Schema.merge state.1 foreignKeys alter state.2
    (merged.tables, merged.ids)
  | .markPrimaryKey table column =>
    (state.1.modify table fun table => table.modifyColumn column Column.markPrimaryKey, state.2)
  | .markForeignKey table column target =>
    (state.1.modify table fun table => table.modifyColumn column (Column.markForeignKey · target),
      state.2)
  | .detectKey table => (state.1.modify table Table.detectKey, state.2)

theorem allColumns_modify {P : Column → Prop} {tables : List Table} {position : Nat}
    {change : Table → Table} (holds : AllColumns P tables)
    (changed : ∀ table ∈ tables, (∀ column ∈ table.columns, P column) →
      ∀ column ∈ (change table).columns, P column) :
    AllColumns P (tables.modify position change) := by
  intro table member
  obtain ⟨place, here⟩ := List.mem_iff_getElem?.mp member
  rw [List.getElem?_modify] at here
  obtain ⟨before, there, rfl⟩ := Option.map_eq_some_iff.mp here
  have inside := List.mem_of_getElem? there
  split
  · exact changed before inside (holds before inside)
  · exact holds before inside

theorem allColumns_step {P : Column → Prop}
    (kept : ∀ mark column, P column → P (Mark.apply column mark))
    (defined : ∀ table dialect id parts, P (defineColumn table dialect id parts).1)
    (state : List Table × IdCounter) (step : Step) (holds : AllColumns P state.1) :
    AllColumns P (step.run state).1 := by
  cases step with
  | define dialect definition =>
    simp only [Step.run, defineTable_eq]
    split
    · next outcome =>
      split at outcome
      · cases outcome
      · cases outcome
        intro table member
        rcases List.mem_append.mp member with old | new
        · exact holds table old
        · rw [List.mem_singleton] at new
          subst new
          exact forall_definedTable kept defined _ _ _
    · exact holds
  | merge foreignKeys alter => exact allColumns_merge kept _ _ _ holds
  | markPrimaryKey table column =>
    refine allColumns_modify holds fun table _ before => ?_
    rw [Table.modifyColumn_markPrimaryKey]
    exact forall_mark kept _ _ before
  | markForeignKey table column target =>
    refine allColumns_modify holds fun table _ before => ?_
    rw [show (Column.markForeignKey · target) = (Mark.foreignKey target).apply from rfl,
      Table.modifyColumn_eq_mark]
    exact forall_mark kept _ _ before
  | detectKey table =>
    refine allColumns_modify holds fun table _ before => ?_
    unfold Table.detectKey
    split
    · rw [Table.modifyColumn_markPrimaryKey]
      exact forall_mark kept _ _ before
    · exact before

theorem allColumns_run {P : Column → Prop}
    (kept : ∀ mark column, P column → P (Mark.apply column mark))
    (defined : ∀ table dialect id parts, P (defineColumn table dialect id parts).1)
    (state : List Table × IdCounter) (steps : List Step) (holds : AllColumns P state.1) :
    AllColumns P (steps.foldl Step.run state).1 :=
  List.foldlRecOn steps Step.run holds fun state holds step _ =>
    allColumns_step kept defined state step holds

/-! Keys without nulls. -/

/-- If the column is in a primary key, it holds no nulls. -/
def Column.KeepsKey (column : Column) : Prop :=
  column.isPrimaryKey = true → column.isNullable = false

theorem Column.keepsKey_mark (mark : Mark) (column : Column) (keeps : column.KeepsKey) :
    (Mark.apply column mark).KeepsKey := by
  cases mark with
  | noKey => intro key; cases key
  | primaryKey => intro _; rfl
  | unique | autoIncrement | indexed | foreignKey target => exact keeps

theorem Column.keepsKey_defineColumn (table : String) (dialect : Dialect) (id : String)
    (parts : String × Option DataType × List ColumnConstraint) :
    (defineColumn table dialect id parts).1.KeepsKey := by
  -- a later NULL may have opened the column again, which is why it is closed last
  intro key
  simp only [defineColumn, Column.close] at key ⊢
  simp [key]

/-- So it is in every result, and after every run of steps from tables of which it holds. -/
theorem keys_hold_no_nulls (cut : Splitter) (read : TableReader) (options : ParseOptions) :
    (∀ selection alter, AllColumns Column.KeepsKey (assemble selection alter).result.tables) ∧
    (∀ script run, parseWith cut read options script = .ok run →
      AllColumns Column.KeepsKey run.result.tables) ∧
    (∀ (state : List Table × IdCounter) (steps : List Step), AllColumns Column.KeepsKey state.1 →
      AllColumns Column.KeepsKey (steps.foldl Step.run state).1) := by
  have nothing : AllColumns Column.KeepsKey [] := fun _ member => absurd member List.not_mem_nil
  have schema : ∀ alter definitions,
      AllColumns Column.KeepsKey (schemaOf definitions alter).tables := fun alter definitions =>
    allColumns_schemaOf Column.keepsKey_mark Column.keepsKey_defineColumn definitions alter
  refine ⟨fun selection alter => ?_, fun script run parsed => ?_, fun state steps holds => ?_⟩
  · exact assemble_holds (fun tables _ => AllColumns Column.KeepsKey tables) nothing (schema alter)
      selection
  · rw [parseWith_eq_ok parsed]
    exact parsePrepared_holds (fun tables _ => AllColumns Column.KeepsKey tables) nothing
      (schema _) read options _
  · exact allColumns_run Column.keepsKey_mark Column.keepsKey_defineColumn state steps holds

theorem keys_hold_no_nulls_single :
    let column : Element :=
      .column ⟨⟨"a", false⟩, none, [⟨none, .primaryKey none⟩, ⟨none, .nullability true⟩]⟩
    let read : TableReader := fun _ _ => .ok [⟨"t", some [column], []⟩]
    let bare : Table := { name := "t", columns := [{ id := "c", name := "a", dataType := "INT" }] }
    (∃ run, parseWith split read ⟨[.sqlite], false⟩ "CREATE TABLE t (a PRIMARY KEY NULL)".toList =
        .ok run ∧
      run.result.tables.any Table.hasPrimaryKey = true ∧
      AllColumns Column.KeepsKey run.result.tables) ∧
    AllColumns Column.KeepsKey [bare] ∧
    AllColumns Column.KeepsKey ([Step.detectKey 0, .merge [] { primaryKeys := [⟨"t", ["A"]⟩] }].foldl
      Step.run ([bare], .start)).1 := by
  intro column read bare
  have parsed : (match parseWith split read ⟨[.sqlite], false⟩
        "CREATE TABLE t (a PRIMARY KEY NULL)".toList with
      | .ok run => run.result.tables.any Table.hasPrimaryKey
      | .error _ => false) = true := by
    decide +kernel
  have unkeyed : AllColumns Column.KeepsKey [bare] := by
    simp [AllColumns, bare, Column.KeepsKey]
  refine ⟨?_, unkeyed, (keys_hold_no_nulls split read ⟨[.sqlite], false⟩).2.2 ([bare], .start) _ unkeyed⟩
  split at parsed
  · next run outcome =>
    have holds := (keys_hold_no_nulls split read ⟨[.sqlite], false⟩).2.1 _ run outcome
    exact ⟨run, outcome, parsed, holds⟩
  · cases parsed

end DdlSchema.Schema
