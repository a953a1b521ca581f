import Mathlib.Data.List.Flatten
import Mathlib.Data.List.Perm.Basic
import Mathlib.Data.List.Perm.Subperm
import DdlSchema.Proofs.Schema.AlterReading
import DdlSchema.Proofs.Schema.Numbering

/-! Indexes, the ids they list and the flags they leave on columns. Every change of a table that adds an
index flags just the columns of that index, and no other change flags a column as indexed; so the two
agree in every schema. All ids of a schema are distinct, which makes an id in an index mean one column. -/

set_option autoImplicit false

namespace DdlSchema.Schema

open DdlSchema.Ddl DdlSchema.Statement DdlSchema.Text

/-- Agreement of the indexes of a table with its columns. -/
structure Table.WellIndexed (table : Table) : Prop where
  members : ∀ index ∈ table.indexes, index.columns ≠ [] ∧ ∀ id ∈ index.columns, id ∈ table.columnIds
  indexed : ∀ column ∈ table.columns, column.isIndexed = true ↔
    ∃ index ∈ table.indexes, index.kind ≠ .unique ∧ column.id ∈ index.columns
  unique : ∀ column ∈ table.columns, ∀ index ∈ table.indexes, index.kind = .unique →
    column.id ∈ index.columns → column.isUnique = true

/-- The mark that an index of this kind leaves on its columns. -/
def IndexKind.mark : IndexKind → Mark
  | .unique => .unique
  | .plain | .fulltext | .spatial => .indexed

theorem IndexKind.mark_eq_indexed {kind : IndexKind} : kind.mark = .indexed ↔ kind ≠ .unique := by
  cases kind <;> simp [IndexKind.mark]

theorem IndexKind.mark_eq_unique {kind : IndexKind} : kind.mark = .unique ↔ kind = .unique := by
  cases kind <;> simp [IndexKind.mark]

/-! Marks and flags. -/

theorem Mark.isIndexed_apply (mark : Mark) (column : Column) :
    (mark.apply column).isIndexed = (column.isIndexed || decide (mark = .indexed)) := by
  cases mark <;> simp [Mark.apply, Column.markPrimaryKey, Column.markUnique, Column.markIndexed,
    Column.markForeignKey]

theorem Mark.isUnique_apply (mark : Mark) (column : Column) :
    (mark.apply column).isUnique = (column.isUnique || decide (mark = .unique)) := by
  cases mark <;> simp [Mark.apply, Column.markPrimaryKey, Column.markUnique, Column.markIndexed,
    Column.markForeignKey]

section

variable {table : Table} {places : List Nat}

theorem Table.columnIds_mark (mark : Mark) : (table.mark places mark).columnIds = table.columnIds :=
  columnIds_of_outline (Change.outline_mark table places mark)

theorem Table.mem_mark {mark : Mark} {column : Column}
    (member : column ∈ (table.mark places mark).columns) :
    ∃ place before, table.columns[place]? = some before ∧ before ∈ table.columns ∧
      column.id = before.id ∧ column = if place ∈ places then mark.apply before else before := by
  obtain ⟨place, bound, rfl⟩ := List.mem_mapIdx.mp member
  refine ⟨place, _, List.getElem?_eq_getElem bound, List.getElem_mem bound, ?_, rfl⟩
  split <;> simp

/-- An id stands for one place only, so an index on some places lists the ids of just these. -/
theorem Table.mem_ids_columnsAt (distinct : table.columnIds.Nodup) {place : Nat} {column : Column}
    (here : table.columns[place]? = some column) :
    column.id ∈ (table.columnsAt places).map Column.id ↔ place ∈ places := by
  constructor
  · intro member
    obtain ⟨other, inside, same⟩ := List.mem_map.mp member
    obtain ⟨position, named, there⟩ := List.mem_filterMap.mp inside
    by_cases apart : position = place
    · exact apart ▸ named
    · exact absurd same (ne_of_nodup_map Column.id distinct there here apart)
  · intro named
    exact List.mem_map.mpr ⟨column, List.mem_filterMap.mpr ⟨place, named, here⟩, rfl⟩

theorem Table.WellIndexed.mark (well : table.WellIndexed) (places : List Nat) {mark : Mark}
    (other : mark ≠ .indexed) : (table.mark places mark).WellIndexed := by
  refine ⟨fun index member => ?_, fun column member => ?_, fun column member index inside kind lists => ?_⟩
  · rw [columnIds_mark]
    exact well.members index member
  · obtain ⟨place, before, -, earlier, id, rfl⟩ := mem_mark member
    have flag : (if place ∈ places then mark.apply before else before).isIndexed = before.isIndexed := by
      split
      · simp [Mark.isIndexed_apply, other]
      · rfl
    rw [flag, id]
    exact well.indexed before earlier
  · obtain ⟨place, before, -, earlier, id, rfl⟩ := mem_mark member
    rw [id] at lists
    have flagged := well.unique before earlier index inside kind lists
    split <;> simp [Mark.isUnique_apply, flagged]

def Table.withIndex (table : Table) (index : Index) : Table :=
  { table with indexes := table.indexes ++ [index] }

theorem Table.exists_withIndex {index : Index} {P : Index → Prop} :
    (∃ entry ∈ (table.withIndex index).indexes, P entry) ↔ (∃ entry ∈ table.indexes, P entry) ∨ P index := by
  simp [withIndex, or_and_right, exists_or]

theorem Table.WellIndexed.index (well : table.WellIndexed) (distinct : table.columnIds.Nodup)
    (some : places ≠ []) (known : ∀ place ∈ places, place < table.columns.length) (id name : String)
    (kind : IndexKind) :
    ((table.mark places kind.mark).withIndex
      ⟨id, name, (table.columnsAt places).map Column.id, kind⟩).WellIndexed := by
  refine ⟨fun index member => ?_, fun column member => ?_, fun column member index inside unique lists => ?_⟩
  · change index.columns ≠ [] ∧ ∀ id ∈ index.columns, id ∈ (table.mark places kind.mark).columnIds
    rw [columnIds_mark]
    rcases List.mem_append.mp member with old | new
    · exact well.members index old
    · rw [List.mem_singleton.mp new]
      obtain ⟨place, named⟩ := List.exists_mem_of_ne_nil places some
      have own := List.getElem?_eq_getElem (known place named)
      refine ⟨List.ne_nil_of_mem ((mem_ids_columnsAt distinct own).mpr named), fun id listed => ?_⟩
      obtain ⟨column, inside, rfl⟩ := List.mem_map.mp listed
      obtain ⟨place, -, here⟩ := List.mem_filterMap.mp inside
      exact List.mem_map_of_mem (List.mem_of_getElem? here)
  · obtain ⟨place, before, here, earlier, sameId, rfl⟩ := mem_mark member
    rw [exists_withIndex, sameId, mem_ids_columnsAt distinct here]
    refine Iff.trans ?_ (or_congr_left (well.indexed before earlier))
    -- the column is newly flagged if it is marked and the mark is not that of a unique key
    by_cases marked : place ∈ places
    · simp [marked, Mark.isIndexed_apply, IndexKind.mark_eq_indexed]
    · simp [marked]
  · obtain ⟨place, before, here, earlier, sameId, rfl⟩ := mem_mark member
    rw [sameId] at lists
    rcases List.mem_append.mp inside with old | new
    · have flagged := well.unique before earlier index old unique lists
      split <;> simp [Mark.isUnique_apply, flagged]
    · rw [List.mem_singleton.mp new] at unique lists
      have marked := (mem_ids_columnsAt distinct here).mp lists
      simp [marked, Mark.isUnique_apply, IndexKind.mark_eq_unique.mpr unique]

end

/-! Changes. -/

namespace Change

/-- The mark is that of the index, and where there is no index nothing is flagged as indexed. -/
def Flags (change : Change) : Prop :=
  match change.index with
  | some (_, kind) => change.mark = kind.mark
  | none => change.mark ≠ .indexed

theorem positions_lt {change : Change} {table : Table} :
    ∀ place ∈ change.positions table, place < table.columns.length := by
  intro place member
  unfold positions at member
  split at member
  · obtain ⟨name, -, found⟩ := List.mem_filterMap.mp member
    exact Table.position?_lt found
  · exact List.mem_range.mp member

theorem wellIndexed_apply {table : Table} (ids : IdCounter) {change : Change} (flags : change.Flags)
    (distinct : table.columnIds.Nodup) (well : table.WellIndexed) :
    (apply (table, ids) change).1.WellIndexed := by
  rw [apply_eq]
  unfold Flags at flags
  cases declared : change.index with
  | none =>
    rw [declared] at flags
    simpa [newIndex?, declared] using well.mark _ flags
  | some index =>
    rw [declared] at flags
    by_cases unknown : (change.positions table).isEmpty
    · -- an index on no known column is not made, and no column is flagged
      simpa [newIndex?, declared, unknown, List.isEmpty_iff.mp unknown] using well
    · have some : change.positions table ≠ [] := fun empty => unknown (List.isEmpty_iff.mpr empty)
      have made := well.index distinct some positions_lt (ids.next "idx").1
        (index.1.getD (table.indexName (table.columnsAt (change.positions table)))) index.2
      rw [← flags] at made
      simpa [newIndex?, declared, unknown, Index.withId, Table.withIndex] using made

theorem wellIndexed_applyAll (state : Table × IdCounter) {changes : List Change}
    (flags : ∀ change ∈ changes, change.Flags) (distinct : state.1.columnIds.Nodup)
    (well : state.1.WellIndexed) : (applyAll state changes).1.WellIndexed := by
  induction changes generalizing state with
  | nil => exact well
  | cons change rest ih =>
    -- the step leaves the ids of the columns, so they are as distinct as before
    have ids := Table.columnIds_of_outline (outline_apply state change)
    exact ih _ (fun later member => flags later (List.mem_cons_of_mem _ member)) (ids ▸ distinct)
      (wellIndexed_apply state.2 (flags change List.mem_cons_self) distinct well)

theorem flags_unique (name : Option String) (columns : List String) : (unique name columns).Flags := by
  unfold Flags unique
  cases name.filter fun name => !name.isEmpty with
  | none => exact fun same => nomatch same
  | some name => rfl

theorem flags_plainIndex (name : Option String) (columns : List String) {kind : IndexKind}
    (other : kind ≠ .unique) : (plainIndex name columns kind).Flags :=
  (IndexKind.mark_eq_indexed.mpr other).symm

end Change

/-! Definitions. -/

theorem flags_constraintChanges {constraint : Option String × Constraint} {change : Change}
    (member : change ∈ constraintChanges constraint) : change.Flags := by
  unfold constraintChanges at member
  split at member
  case h_1 =>
    rw [List.mem_singleton.mp member]
    exact fun same => nomatch same
  case h_2 =>
    rw [List.mem_singleton.mp member]
    exact Change.flags_unique _ _
  case h_3 definition _ =>
    rw [List.mem_singleton.mp member]
    refine Change.flags_plainIndex _ _ ?_
    cases definition.kind <;> exact fun same => nomatch same
  case h_4 =>
    obtain ⟨key, -, rfl⟩ := List.mem_map.mp member
    exact fun same => nomatch same

theorem isIndexed_defineColumn (table : String) (dialect : Dialect) (id : String)
    (part : String × Option DataType × List ColumnConstraint) :
    (defineColumn table dialect id part).1.isIndexed = false :=
  defineColumn_kept Column.isIndexed table dialect
    (fun column kind => by unfold Column.apply; split <;> rfl) (fun _ _ => rfl) (fun _ => rfl) id part

section

variable (ids : IdCounter) (dialect : Dialect) (definition : CreateTable)

theorem wellIndexed_start :
    (startTable (tableName definition) dialect definition.entries ids).table.WellIndexed := by
  refine ⟨fun _ member => absurd member List.not_mem_nil, fun column member => ?_,
    fun _ _ _ member => absurd member List.not_mem_nil⟩
  obtain ⟨pair, inside, rfl⟩ := List.mem_map.mp member
  obtain ⟨id, parts, -, rfl⟩ := mem_defineColumns inside
  rw [isIndexed_defineColumn]
  exact iff_of_false Bool.false_ne_true fun ⟨_, nothing, _⟩ => absurd nothing List.not_mem_nil

theorem wellIndexed_definedTable : (definedTable ids dialect definition).table.WellIndexed := by
  let start := startTable (tableName definition) dialect definition.entries ids
  let changes := (tableConstraints definition).flatMap constraintChanges
  have distinct : start.table.columnIds.Nodup := by
    have drawn : start.table.columnIds = _ := columnIds_start ids dialect definition
    rw [drawn]
    exact IdCounter.nodup_drawn _ _
  have flags : ∀ change ∈ changes, change.Flags := by
    intro change member
    obtain ⟨constraint, -, inside⟩ := List.mem_flatMap.mp member
    exact flags_constraintChanges inside
  have declared : (constrained ids dialect definition).table.WellIndexed := by
    rw [constrained_eq]
    exact Change.wellIndexed_applyAll (start.table, start.ids) flags distinct
      (wellIndexed_start ids dialect definition)
  -- the implied key flags no index, and options leave columns and indexes alone
  have finished : (constrained ids dialect definition).finish.table.WellIndexed := by
    rw [Defining.finish_eq]
    exact declared.mark _ fun same => nomatch same
  obtain ⟨-, columns, indexes⟩ :=
    (constrained ids dialect definition).finish.table.decorate_apart definition.properties
  refine ⟨?_, ?_, ?_⟩
  · simpa only [definedTable, Table.columnIds, columns, indexes] using finished.members
  · simpa only [definedTable, columns, indexes] using finished.indexed
  · simpa only [definedTable, columns, indexes] using finished.unique

end

/-! Collected tables. -/

/-- Every collected table is one of those defined; the replaced ones are missing. -/
theorem subperm_collect (outcomes : List (Except NamelessTable DefinedTable)) :
    (collect outcomes).tables.Subperm ((successes outcomes).map DefinedTable.table) := by
  have added : ∀ (outcomes : List (Except NamelessTable DefinedTable)) (state : Collected),
      (outcomes.foldl Collected.add state).tables.Subperm
        (state.tables ++ (successes outcomes).map DefinedTable.table) := by
    intro outcomes
    induction outcomes with
    | nil =>
      intro state
      simpa using List.Subperm.refl state.tables
    | cons outcome rest ih =>
      intro state
      refine (ih (state.add outcome)).trans ?_
      cases outcome with
      | error problem => exact List.Subperm.refl _
      | ok defined =>
        have step : (state.add (.ok defined)).tables.Subperm (state.tables ++ [defined.table]) := by
          simp only [Collected.add]
          -- a repeated name puts the new table in the place of the old one
          split
          · next position found =>
            obtain ⟨bound, -⟩ := List.findIdx?_eq_some_iff_getElem.mp found
            refine (List.set_perm_cons_eraseIdx bound defined.table).subperm.trans ?_
            refine List.Subperm.trans ?_ List.perm_append_comm.subperm
            exact ((List.eraseIdx_sublist state.tables position).cons_cons defined.table).subperm
          · exact List.Subperm.refl _
        rw [successes_ok, List.map_cons, List.append_cons]
        exact (List.subperm_append_right _).mpr step
  exact added outcomes {}

theorem nodup_of_subperm {α : Type} {first second : List α} (inside : first.Subperm second)
    (distinct : second.Nodup) : first.Nodup := by
  obtain ⟨list, same, sub⟩ := inside
  exact same.nodup_iff.mp (distinct.sublist sub)

theorem flatMap_subperm {α β : Type} {first second : List α} (inside : first.Subperm second)
    (f : α → List β) : (first.flatMap f).Subperm (second.flatMap f) := by
  obtain ⟨list, same, sub⟩ := inside
  exact ⟨list.flatMap f, same.flatMap_right f, sub.flatMap f⟩

section

variable (definitions : List (Dialect × CreateTable)) (alter : AlterConstraints)

theorem nodup_columnIds_schemaOf : ((schemaOf definitions alter).tables.flatMap Table.columnIds).Nodup := by
  have merged : (schemaOf definitions alter).tables.map Table.columnIds =
      (collect (defineTables .start definitions).1).tables.map Table.columnIds := by
    simp only [schemaOf, merge_eq]
    exact map_foldl_changeNamed Table.columnIds _ _ fun _ _ _ _ =>
      Table.columnIds_of_outline (Change.outline_applyAll _ _)
  have collected := flatMap_subperm (subperm_collect (defineTables .start definitions).1) Table.columnIds
  rw [List.flatMap_map, drawn_defineTables columnIds_definedTable] at collected
  rw [List.flatMap_def, merged, ← List.flatMap_def]
  exact nodup_of_subperm collected (IdCounter.nodup_drawn _ _)

theorem nodup_indexIds_schemaOf : ((schemaOf definitions alter).tables.flatMap Table.indexIds).Nodup := by
  let defined := defineTables .start definitions
  let collected := collect defined.1
  obtain ⟨later, ids⟩ := indexIds_merge collected.tables collected.foreignKeys alter defined.2
  have drawn := flatMap_subperm (subperm_collect defined.1) Table.indexIds
  rw [List.flatMap_map, drawn_defineTables indexIds_definedTable] at drawn
  -- the ids drawn by the merge go on where those of the definitions end
  replace drawn := (List.subperm_append_right (IdCounter.drawn "idx" defined.2
    (merge collected.tables collected.foreignKeys alter defined.2).ids)).mpr drawn
  rw [IdCounter.drawn_append (count_defineTables_le .start definitions "idx") later] at drawn
  exact ids.nodup_iff.mpr (nodup_of_subperm drawn (IdCounter.nodup_drawn _ _))

end

/-! Merges. -/

/-- Only an altered index that calls itself unique would flag its columns otherwise. -/
theorem flags_changes {alter : AlterConstraints} (kinds : ∀ clause ∈ alter.indexes, clause.kind ≠ .unique)
    {changes : String × List Change} (member : changes ∈ alter.changes) :
    ∀ change ∈ changes.2, change.Flags := by
  have noIndex : ∀ change : Change, change.index = none → change.mark ≠ .indexed → change.Flags := by
    intro change none other
    unfold Change.Flags
    rw [none]
    exact other
  intro change inside
  simp only [AlterConstraints.changes, AlterConstraints.amendments, List.mem_append, List.mem_map,
    List.map_append] at member
  rcases member with (((⟨_, ⟨clause, -, rfl⟩, rfl⟩ | ⟨_, ⟨clause, -, rfl⟩, rfl⟩) |
    ⟨_, ⟨clause, -, rfl⟩, rfl⟩) | ⟨_, ⟨clause, known, rfl⟩, rfl⟩) | ⟨key, -, rfl⟩
  · simp only [PrimaryKeyClause.amendment, List.mem_cons, List.not_mem_nil, or_false] at inside
    rcases inside with rfl | rfl <;> exact noIndex _ rfl fun same => Mark.noConfusion same
  · rw [List.mem_singleton.mp inside]
    exact Change.flags_unique _ _
  · rw [List.mem_singleton.mp inside]
    exact noIndex _ rfl fun same => Mark.noConfusion same
  · rw [List.mem_singleton.mp inside]
    exact Change.flags_plainIndex _ _ (kinds clause known)
  · rw [List.mem_singleton.mp inside]
    exact noIndex _ rfl fun same => Mark.noConfusion same

structure WellIndexed (tables : List Table) : Prop where
  columnIds : (tables.flatMap Table.columnIds).Nodup
  indexIds : (tables.flatMap Table.indexIds).Nodup
  tables : ∀ table ∈ tables, table.WellIndexed

theorem wellIndexed_schemaOf (definitions : List (Dialect × CreateTable)) {alter : AlterConstraints}
    (kinds : ∀ clause ∈ alter.indexes, clause.kind ≠ .unique) :
    WellIndexed (schemaOf definitions alter).tables := by
  refine ⟨nodup_columnIds_schemaOf definitions alter, nodup_indexIds_schemaOf definitions alter, ?_⟩
  have kept : ∀ table ∈ (schemaOf definitions alter).tables,
      table.columnIds.Nodup ∧ table.WellIndexed := by
    simp only [schemaOf, merge_eq]
    refine forall_tables_changeNamed _ (fun amendment member table ids holds => ?_) fun table member => ?_
    · obtain ⟨distinct, well⟩ := holds
      have same := Table.columnIds_of_outline (Change.outline_applyAll (table, ids) amendment.2)
      exact ⟨same ▸ distinct,
        Change.wellIndexed_applyAll (table, ids) (flags_changes kinds member) distinct well⟩
    · obtain ⟨outcome, inside, rfl⟩ := mem_collect member
      obtain ⟨ids, dialect, definition, rfl⟩ := mem_defineTables inside
      refine ⟨?_, wellIndexed_definedTable ids dialect definition⟩
      rw [columnIds_definedTable]
      exact IdCounter.nodup_drawn _ _
  exact fun table member => (kept table member).2

/-- So it is in every result, and no two ids that one counter gives are equal. -/
theorem well_indexed (cut : Splitter) (read : TableReader) (options : ParseOptions) :
    (∀ script run, parseWith cut read options script = .ok run → WellIndexed run.result.tables) ∧
    (∀ stems, (IdCounter.start.drawAll stems).Nodup) := by
  refine ⟨fun script run parsed => ?_, fun stems => IdCounter.nodup_drawAll .start stems⟩
  have kinds : ∀ clause ∈ (AlterConstraints.ofReadings run.readings).indexes, clause.kind ≠ .unique :=
    fun clause member => kind_of_readAlterations (readings_parseWith parsed) (mem_indexes_ofReadings member)
  have nothing : WellIndexed [] :=
    ⟨List.nodup_nil, List.nodup_nil, fun _ member => absurd member List.not_mem_nil⟩
  rw [parseWith_eq_ok parsed]
  exact parsePrepared_holds (fun tables _ => WellIndexed tables) nothing
    (fun definitions => wellIndexed_schemaOf definitions kinds) read options run.prepared

theorem well_indexed_pair :
    let column : Element := .column ⟨⟨"a", false⟩, none, []⟩
    let unique : Element := .namedConstraint (some "u") [.unique (.columns none ["A", "b"])]
    let part : KeyPart := ⟨.name ⟨"a", false⟩, none, none, none⟩
    let index : Element := .constraint (.index ⟨.plain, none, none, [part], []⟩)
    let read : TableReader := fun _ _ => .ok [⟨"t", some [column, unique, index], []⟩]
    ∃ run, parseWith split read ⟨[.mysql], false⟩ "CREATE TABLE t (a, UNIQUE u (A, b), KEY (a))".toList =
      .ok run ∧
      (run.result.tables.flatMap Table.indexIds).length = 2 ∧ WellIndexed run.result.tables := by
  intro column unique part index read
  have parsed : (match parseWith split read ⟨[.mysql], false⟩
        "CREATE TABLE t (a, UNIQUE u (A, b), KEY (a))".toList with
      | .ok run => (run.result.tables.flatMap Table.indexIds).length
      | .error _ => 0) = 2 := by
    decide +kernel
  split at parsed
  · next run outcome =>
    exact ⟨run, outcome, parsed, (well_indexed split read ⟨[.mysql], false⟩).1 _ run outcome⟩
  · cases parsed

end DdlSchema.Schema
