import Mathlib.Data.List.Nodup
import DdlSchema.Proofs.Schema.Numbering

/-! Tables that differ in the ids of their indexes alone. The ids follow the order in which indexes are
declared; nothing else that is made of a definition depends on them. -/

set_option autoImplicit false

namespace DdlSchema.Schema

open DdlSchema.Ddl

def Table.renumber (rename : String → String) (table : Table) : Table :=
  { table with indexes := table.indexes.map fun index => index.withId (rename index.id) }

/-- The table with blank ids for its indexes. -/
def Table.bare (table : Table) : Table := table.renumber fun _ => ""

/-- Whether the second tables are the first ones under other ids of indexes, no two of which fall
together. -/
def Renumbered (tables others : List Table) : Prop :=
  ∃ rename : String → String, others = tables.map (Table.renumber rename) ∧
    ∀ first ∈ tables.flatMap Table.indexIds, ∀ second ∈ tables.flatMap Table.indexIds,
      rename first = rename second → first = second

theorem exists_rename {first second : List String} (distinct : first.Nodup)
    (lengths : first.length = second.length) : ∃ rename, first.map rename = second := by
  induction first generalizing second with
  | nil => exact ⟨id, (List.length_eq_zero_iff.mp lengths.symm).symm⟩
  | cons id rest ih =>
    cases second with
    | nil => cases lengths
    | cons other others =>
      obtain ⟨fresh, distinct⟩ := List.nodup_cons.mp distinct
      obtain ⟨rename, rfl⟩ := ih distinct (Nat.succ.inj lengths)
      refine ⟨fun key => if key = id then other else rename key, ?_⟩
      rw [List.map_cons, if_pos rfl]
      congr 1
      refine List.map_congr_left fun key member => if_neg ?_
      rintro rfl
      exact fresh member

theorem Table.renumber_eq {table other : Table} {rename : String → String}
    (bare : table.bare = other.bare) (ids : table.indexIds.map rename = other.indexIds) :
    table.renumber rename = other := by
  -- an index is its blank copy together with its id
  have rebuilt : ∀ indexes : List Index,
      List.zipWith Index.withId (indexes.map (Index.withId · "")) (indexes.map Index.id) = indexes := by
    intro indexes
    simp [List.zipWith_map, List.zipWith_self, Index.withId]
  obtain ⟨name, columns, indexes, engine, collation, comment⟩ := table
  obtain ⟨name', columns', indexes', engine', collation', comment'⟩ := other
  simp only [Table.bare, renumber, Table.mk.injEq, indexIds] at bare ids ⊢
  obtain ⟨rfl, rfl, entries, rfl, rfl, rfl⟩ := bare
  refine ⟨rfl, rfl, ?_, rfl, rfl, rfl⟩
  rw [← rebuilt indexes', ← ids, ← entries, List.map_map, List.zipWith_map, List.zipWith_self]
  rfl

theorem map_renumber_eq {tables others : List Table} {rename : String → String}
    (bare : tables.map Table.bare = others.map Table.bare)
    (ids : (tables.flatMap Table.indexIds).map rename = others.flatMap Table.indexIds) :
    tables.map (Table.renumber rename) = others := by
  induction tables generalizing others with
  | nil => exact (List.map_eq_nil_iff.mp bare.symm).symm
  | cons table rest ih =>
    cases others with
    | nil => cases bare
    | cons other tail =>
      obtain ⟨head, bare⟩ := List.cons.inj bare
      have lengths : table.indexes.length = other.indexes.length := by
        simpa [Table.bare, Table.renumber] using congrArg (fun table => table.indexes.length) head
      rw [List.flatMap_cons, List.flatMap_cons, List.map_append] at ids
      -- the ids of the first table end where those of the other first table end
      obtain ⟨first, later⟩ := List.append_inj ids (by simpa [Table.indexIds] using lengths)
      rw [List.map_cons, Table.renumber_eq head first, ih bare later]

/-- Equal tables but for the ids of indexes, all of which are distinct, differ in a renumbering. -/
theorem renumbered_of_bare {tables others : List Table}
    (bare : tables.map Table.bare = others.map Table.bare)
    (distinct : (tables.flatMap Table.indexIds).Nodup)
    (others_distinct : (others.flatMap Table.indexIds).Nodup) : Renumbered tables others := by
  have counts : ∀ tables : List Table, (tables.flatMap Table.indexIds).length =
      ((tables.map Table.bare).flatMap Table.indexes).length := by
    simp [List.length_flatMap, Table.indexIds, Table.bare, Table.renumber, Function.comp_def]
  have lengths : (tables.flatMap Table.indexIds).length = (others.flatMap Table.indexIds).length := by
    rw [counts tables, counts others, bare]
  obtain ⟨rename, ids⟩ := exists_rename distinct lengths
  refine ⟨rename, (map_renumber_eq bare ids).symm, fun first inside second also same => ?_⟩
  rw [← ids] at others_distinct
  exact List.inj_on_of_nodup_map others_distinct inside also same

/-! Changes to tables with blank ids. -/

def Change.applyBare (table : Table) (change : Change) : Table :=
  let marked := table.mark (change.positions table) change.mark
  { marked with indexes := marked.indexes ++ (change.newIndex? table).toList }

theorem Change.bare_apply (table : Table) (ids : IdCounter) (change : Change) :
    (apply (table, ids) change).1.bare = applyBare table.bare change := by
  have entry : ∀ index, change.newIndex? table = some index → index.withId "" = index := by
    intro index made
    obtain ⟨_, -, made⟩ := Option.bind_eq_some_iff.mp made
    simp only at made
    split at made
    · cases made
    · cases made
      rfl
  rw [apply_eq, applyBare, newIndex?_congr (show table.bare.outline = table.outline from rfl),
    positions_congr (show table.bare.outline = table.outline from rfl)]
  cases made : change.newIndex? table with
  | none => simp [Table.bare, Table.renumber, Table.mark]
  | some index =>
    have blank := entry index made
    simp only [Index.withId] at blank
    simp [Table.bare, Table.renumber, Table.mark, Index.withId, blank]

theorem Change.bare_applyAll (table : Table) (ids : IdCounter) (changes : List Change) :
    (applyAll (table, ids) changes).1.bare = changes.foldl applyBare table.bare := by
  induction changes generalizing table ids with
  | nil => rfl
  | cons change rest ih => rw [applyAll_cons, ih, bare_apply, List.foldl_cons]

theorem Table.bare_decorate (table : Table) (properties : List Property) :
    (table.decorate properties).bare = table.bare.decorate properties := by
  have apart := table.decorate_apart properties
  have split := table.decorate_with table.columns table.bare.indexes properties
  simp only [bare, renumber] at split ⊢
  rw [split, apart.2.2, ← apart.2.1]

theorem Change.applyBare_decorate (table : Table) (change : Change) (properties : List Property) :
    applyBare (table.decorate properties) change = (applyBare table change).decorate properties := by
  have outline := table.outline_decorate properties
  have apart := table.decorate_apart properties
  have split := table.decorate_with (applyBare table change).columns (applyBare table change).indexes
    properties
  have rebuilt : { table with
      columns := (applyBare table change).columns
      indexes := (applyBare table change).indexes } = applyBare table change := rfl
  rw [← rebuilt, split]
  simp only [applyBare, newIndex?_congr outline, positions_congr outline, Table.mark, apart.2.1,
    apart.2.2]

theorem Change.foldl_applyBare_decorate (table : Table) (changes : List Change)
    (properties : List Property) : changes.foldl applyBare (table.decorate properties) =
      (changes.foldl applyBare table).decorate properties := by
  induction changes generalizing table with
  | nil => rfl
  | cons change rest ih => rw [List.foldl_cons, applyBare_decorate, ih, List.foldl_cons]

theorem names_of_bare {tables others : List Table}
    (same : tables.map Table.bare = others.map Table.bare) :
    tables.map Table.name = others.map Table.name := by
  simpa [Function.comp_def, Table.bare, Table.renumber] using congrArg (List.map Table.name) same

/-- The cardinality of a key is read off the columns, so the ids of indexes have no part in it. -/
theorem withCardinality_congr {tables others : List Table}
    (same : tables.map Table.bare = others.map Table.bare) :
    withCardinality tables = withCardinality others := by
  have names := names_of_bare same
  funext key
  have entry : ∀ position : Nat, tables[position]?.map Table.bare = others[position]?.map Table.bare :=
    fun position => by simpa using congrArg (·[position]?) same
  have column : ∀ table, cardinalityOf table key.column =
      cardinalityOf (table.map Table.bare) key.column := by
    intro table
    cases table <;> rfl
  have found : ((exactTable? tables key.table).bind fun position => tables[position]?).map Table.bare =
      ((exactTable? others key.table).bind fun position => others[position]?).map Table.bare := by
    rw [exactTable?_congr names, Option.map_bind, Option.map_bind]
    exact congrArg _ (funext entry)
  rw [withCardinality, withCardinality, column, found, ← column]

/-! Definitions under other counters. -/

theorem defineColumns_congr {ids others : IdCounter} (same : ids.count "col" = others.count "col")
    (table : String) (dialect : Dialect)
    (parts : List (String × Option DataType × List ColumnConstraint)) :
    (defineColumns table dialect ids parts).1 = (defineColumns table dialect others parts).1 ∧
      (defineColumns table dialect ids parts).2.count "col" =
        (defineColumns table dialect others parts).2.count "col" := by
  induction parts generalizing ids others with
  | nil => exact ⟨rfl, same⟩
  | cons part rest ih =>
    have next : (ids.next "col").2.count "col" = (others.next "col").2.count "col" := by
      rw [IdCounter.count_next, IdCounter.count_next, same]
    obtain ⟨columns, left⟩ := ih next
    refine ⟨?_, left⟩
    simp only [defineColumns, columns, IdCounter.fst_next, same]

/-- A definition with blank ids for its indexes, and without the counter. -/
def Defining.bare (state : Defining) : Defining :=
  { state with table := state.table.bare, ids := .start }

def DefinedTable.bare (defined : DefinedTable) : DefinedTable :=
  { defined with table := defined.table.bare }

theorem Defining.bare_finish (state : Defining) : state.finish.bare = state.bare.finish := by
  rw [finish_eq, finish_eq]
  rfl

theorem Defining.bare_after (state : Defining) (changes : List Change) (keys : List ForeignKey)
    (warnings : List Warning) (key : Bool) : (state.after changes keys warnings key).bare =
      { table := changes.foldl Change.applyBare state.bare.table
        foreignKeys := state.bare.foreignKeys ++ keys
        ids := .start
        warnings := state.bare.warnings ++ warnings
        hasExplicitKey := state.bare.hasExplicitKey || key } := by
  simp only [after, bare, Change.bare_applyAll]

theorem bare_constrained {ids others : IdCounter} (same : ids.count "col" = others.count "col")
    (dialect : Dialect) (definition : CreateTable) :
    (constrained ids dialect definition).bare = (constrained others dialect definition).bare ∧
      (constrained ids dialect definition).ids.count "col" =
        (constrained others dialect definition).ids.count "col" := by
  obtain ⟨columns, left⟩ := defineColumns_congr same (tableName definition) dialect
    (definition.entries.filterMap columnParts?)
  have table : (startTable (tableName definition) dialect definition.entries ids).table =
      (startTable (tableName definition) dialect definition.entries others).table := by
    simp only [startTable, columns]
  have start : (startTable (tableName definition) dialect definition.entries ids).bare =
      (startTable (tableName definition) dialect definition.entries others).bare := by
    simp only [startTable, columns, Defining.bare]
  constructor
  · simp only [constrained_eq, Defining.bare_after, table, start]
  · simp only [constrained_eq, Defining.after]
    rw [Change.count_applyAll _ _ _ (by decide), Change.count_applyAll _ _ _ (by decide)]
    exact left

theorem bare_definedTable {ids others : IdCounter} (same : ids.count "col" = others.count "col")
    (dialect : Dialect) (definition : CreateTable) :
    (definedTable ids dialect definition).bare = (definedTable others dialect definition).bare := by
  have finished := congrArg Defining.finish (bare_constrained same dialect definition).1
  rw [← Defining.bare_finish, ← Defining.bare_finish] at finished
  simp only [DefinedTable.bare, DefinedTable.mk.injEq] at finished
  simp only [definedTable, DefinedTable.bare, Table.bare_decorate, finished]

theorem bare_defineTables {ids others : IdCounter} (same : ids.count "col" = others.count "col")
    (definitions : List (Dialect × CreateTable)) :
    (defineTables ids definitions).1.map (Except.map DefinedTable.bare) =
      (defineTables others definitions).1.map (Except.map DefinedTable.bare) := by
  induction definitions generalizing ids others with
  | nil => rfl
  | cons first rest ih =>
    rw [defineTables_cons, defineTables_cons]
    split
    · simp only [List.map_cons, ih same]
    · have left := (bare_constrained same first.1 first.2).2
      simp only [List.map_cons, ih left, Except.map, bare_definedTable same]

end DdlSchema.Schema
