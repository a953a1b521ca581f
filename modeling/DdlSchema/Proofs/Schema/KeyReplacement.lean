import Mathlib.Data.List.Forall2
import DdlSchema.Proofs.Schema.MergedKeys

/-! Which columns are the key of a table after a merge. A primary key clause takes the key of its table
away before it marks its own columns, so the last clause for a table decides alone, whatever the table was
declared with and whatever the clauses before it have marked. -/

set_option autoImplicit false

namespace DdlSchema.Schema

/-! The marks of one table. -/

def Table.keyMarks (table : Table) : List Bool := table.columns.map Column.isPrimaryKey

def Table.keyMarksOf (table : Table) (names : List String) : List Bool :=
  (List.range table.columns.length).map fun place => decide (place ∈ table.positions names)

theorem Table.keyMarksOf_congr {table other : Table} (same : table.outline = other.outline)
    (names : List String) : table.keyMarksOf names = other.keyMarksOf names := by
  have lengths : table.columns.length = other.columns.length := by
    simpa using congrArg List.length (names_of_outline same)
  simp only [keyMarksOf, lengths, positions_congr same]

theorem PrimaryKeyClause.keyMarks_amendment (clause : PrimaryKeyClause) (table : Table)
    (ids : IdCounter) : (Change.applyAll (table, ids) clause.amendment.changes).1.keyMarks =
      table.keyMarksOf clause.columns := by
  have outline := Change.outline_apply (table, ids) .clearKeys
  rw [Change.apply_clearKeys] at outline
  simp only [amendment, Change.applyAll_cons, Change.applyAll_nil, Change.apply_clearKeys,
    Change.apply_key, Table.positions_congr outline]
  refine List.ext_getElem? fun place => ?_
  by_cases inside : place < table.columns.length
  · by_cases member : place ∈ table.positions clause.columns <;>
      simp [Table.keyMarks, Table.keyMarksOf, Table.getElem?_mark, inside, member, Mark.apply,
        Column.markPrimaryKey]
  · have beyond := Nat.not_lt.mp inside
    simp [Table.keyMarks, Table.keyMarksOf, Table.getElem?_mark, beyond]

theorem Change.keyMarks_applyAll {changes : List Change}
    (other : ∀ change ∈ changes, change.mark ≠ .noKey ∧ change.mark ≠ .primaryKey)
    (state : Table × IdCounter) : (applyAll state changes).1.keyMarks = state.1.keyMarks := by
  induction changes generalizing state with
  | nil => rfl
  | cons change rest ih =>
    rw [applyAll_cons, ih (fun later member => other later (List.mem_cons_of_mem _ member))]
    obtain ⟨keeps, adds⟩ := other change List.mem_cons_self
    have kept : ∀ column, (change.mark.apply column).isPrimaryKey = column.isPrimaryKey := by
      intro column
      cases mark : change.mark with
      | noKey => exact absurd mark keeps
      | primaryKey => exact absurd mark adds
      | unique | autoIncrement | indexed | foreignKey target => rfl
    rw [Table.keyMarks, columns_apply, Table.map_mark _ kept, Table.keyMarks]

/-! The tables of a merge. -/

def PrimaryKeyClause.change (clause : PrimaryKeyClause) : String × List Change :=
  (clause.table, clause.amendment.changes)

theorem getElem?_changeNamed (state : List Table × IdCounter) (amendment : String × List Change)
    (position : Nat) : (changeNamed state amendment).1[position]? =
      if findTable? state.1 amendment.1 = some position then
        state.1[position]?.map fun table => (Change.applyAll (table, state.2) amendment.2).1
      else state.1[position]? := by
  unfold changeNamed
  cases found : findTable? state.1 amendment.1 with
  | none => rfl
  | some place =>
    have bound := findTable?_lt found
    simp only [changeAt, List.getElem?_eq_getElem bound, Option.some.injEq]
    by_cases same : place = position
    · subst same
      simp [bound]
    · simp [same]

/-- The last of the clauses for the table at a position. -/
def lastClauseAt? (tables : List Table) (clauses : List PrimaryKeyClause) (position : Nat) :
    Option PrimaryKeyClause :=
  clauses.reverse.find? fun clause => findTable? tables clause.table == some position

theorem keyMarks_foldl_changeNamed (tables : List Table) (ids : IdCounter)
    (clauses : List PrimaryKeyClause) (position : Nat) :
    (((clauses.map PrimaryKeyClause.change).foldl changeNamed (tables, ids)).1[position]?).map
        Table.keyMarks =
      tables[position]?.map fun table =>
        match lastClauseAt? tables clauses position with
        | some clause => table.keyMarksOf clause.columns
        | none => table.keyMarks := by
  -- from the right: what the last clause for a table leaves does not depend on the marks before it
  induction clauses using List.reverseRecOn with
  | nil => rfl
  | append_singleton clauses clause ih =>
    rw [List.map_append, List.map_singleton, List.foldl_append, List.foldl_cons, List.foldl_nil]
    have same := outlines_foldl_changeNamed (tables, ids) (clauses.map PrimaryKeyClause.change)
    have last : lastClauseAt? tables (clauses ++ [clause]) position =
        if findTable? tables clause.table = some position then some clause
        else lastClauseAt? tables clauses position := by
      rw [lastClauseAt?, List.reverse_append, List.reverse_singleton, List.singleton_append, List.find?_cons]
      by_cases here : findTable? tables clause.table = some position
      · rw [beq_iff_eq.mpr here, if_pos here]
      · rw [beq_eq_false_iff_ne.mpr here, if_neg here]
        rfl
    generalize (clauses.map PrimaryKeyClause.change).foldl changeNamed (tables, ids) = state at ih same ⊢
    rw [getElem?_changeNamed, PrimaryKeyClause.change, findTable?_congr (names_of_outlines same), last]
    split
    · -- the clauses before have left the outline, and that is all the marks of this one depend on
      have entry := getElem?_outline same position
      cases here : tables[position]? with
      | none =>
        rw [here, Option.map_none, Option.map_eq_none_iff] at entry
        rw [entry]
        rfl
      | some own =>
        rw [here, Option.map_some, Option.map_eq_some_iff] at entry
        obtain ⟨table, there, outline⟩ := entry
        rw [there, Option.map_some, Option.map_some, Option.map_some, clause.keyMarks_amendment,
          Table.keyMarksOf_congr outline]
    · exact ih

/-- The constraints without their primary keys. -/
def AlterConstraints.keyless (alter : AlterConstraints) : AlterConstraints :=
  { alter with primaryKeys := [] }

theorem AlterConstraints.changes_eq (alter : AlterConstraints) :
    alter.changes = alter.primaryKeys.map PrimaryKeyClause.change ++ alter.keyless.changes := by
  simp [changes, amendments, keyless, PrimaryKeyClause.change, PrimaryKeyClause.amendment,
    Function.comp_def]

theorem mark_of_keyless_changes {alter : AlterConstraints} {amendment : String × List Change}
    (member : amendment ∈ alter.keyless.changes) :
    ∀ change ∈ amendment.2, change.mark ≠ .noKey ∧ change.mark ≠ .primaryKey := by
  simp only [AlterConstraints.changes, AlterConstraints.amendments, AlterConstraints.keyless,
    List.map_append, List.map_map, List.map_nil, List.nil_append, List.mem_append, List.mem_map,
    Function.comp_def] at member
  rcases member with ((⟨clause, -, rfl⟩ | ⟨clause, -, rfl⟩) | ⟨clause, -, rfl⟩) | ⟨key, -, rfl⟩
  all_goals
    intro change here
    rw [List.mem_singleton.mp here]
    exact ⟨Mark.noConfusion, Mark.noConfusion⟩

theorem keyMarks_mergedTables (tables : List Table) (alter : AlterConstraints) (ids : IdCounter)
    (position : Nat) : ((mergedTables tables alter ids).1[position]?).map Table.keyMarks =
      tables[position]?.map fun table =>
        match lastClauseAt? tables alter.primaryKeys position with
        | some clause => table.keyMarksOf clause.columns
        | none => table.keyMarks := by
  have kept := map_foldl_changeNamed Table.keyMarks
    ((alter.primaryKeys.map PrimaryKeyClause.change).foldl changeNamed (tables, ids))
    alter.keyless.changes fun amendment member table ids =>
      Change.keyMarks_applyAll (mark_of_keyless_changes member) (table, ids)
  rw [mergedTables, alter.changes_eq, List.foldl_append, ← keyMarks_foldl_changeNamed tables ids]
  simpa using congrArg (·[position]?) kept

/-! Clauses and tables by name. -/

/-- The last of the clauses whose table, looked up by its name, is this one. -/
def lastClause? (tables : List Table) (clauses : List PrimaryKeyClause) (table : Table) :
    Option PrimaryKeyClause :=
  clauses.reverse.find? fun clause => namedTable? tables clause.table == some table

/-- What is said of a key: that there is no table for it, or which columns the table does not have. -/
def PrimaryKeyClause.complaints (tables : List Table) (clause : PrimaryKeyClause) : List Warning :=
  match namedTable? tables clause.table with
  | none => [.alteredTableMissing clause.table]
  | some table => (clause.columns.filter fun name => (table.column? name).isNone).map fun name =>
      .keyColumnMissing name table.name

theorem Table.isNone_column? (table : Table) (name : String) :
    (table.column? name).isNone = (table.position? name).isNone := by
  unfold column?
  cases found : table.position? name with
  | none => rfl
  | some place => simp [List.getElem?_eq_getElem (position?_lt found)]

section

variable {tables : List Table} (distinct : (tables.map Table.name).Nodup)

include distinct

theorem findTable?_eq_some_iff {position : Nat} {table : Table} (here : tables[position]? = some table)
    (name : String) : findTable? tables name = some position ↔ namedTable? tables name = some table := by
  rw [← alteredTable?_eq_namedTable? distinct, alteredTable?]
  constructor
  · intro found
    rw [found, Option.bind_some, here]
  · intro found
    obtain ⟨place, there, same⟩ := Option.bind_eq_some_iff.mp found
    rw [there, Option.some_inj]
    by_contra apart
    exact ne_of_nodup_map Table.name distinct same here apart rfl

theorem lastClauseAt?_eq_lastClause? {position : Nat} {table : Table} (here : tables[position]? = some table)
    (clauses : List PrimaryKeyClause) :
    lastClauseAt? tables clauses position = lastClause? tables clauses table := by
  have same : ∀ clause : PrimaryKeyClause, (findTable? tables clause.table == some position) =
      (namedTable? tables clause.table == some table) := fun clause => by
    rw [Bool.eq_iff_iff, beq_iff_eq, beq_iff_eq, findTable?_eq_some_iff distinct here]
  simp only [lastClauseAt?, lastClause?, same]

theorem warnings_amendment (clause : PrimaryKeyClause) :
    clause.amendment.warnings tables = clause.complaints tables := by
  have named : ((findTable? tables clause.table).bind fun position => tables[position]?) =
      namedTable? tables clause.table := alteredTable?_eq_namedTable? distinct clause.table
  simp only [Amendment.warnings, PrimaryKeyClause.amendment, PrimaryKeyClause.complaints, named,
    Table.missing, Table.isNone_column?]
  cases namedTable? tables clause.table <;> rfl

end

/-- Among tables of distinct names the last primary key for a table decides: its key is made of the columns
that the last clause for it names, whatever was declared before or marked by other clauses, and a table
without a clause keeps its marks. The clauses are complained about one by one, in front of all else. -/
theorem last_key_decides {tables : List Table} (distinct : (tables.map Table.name).Nodup)
    (keys : List ForeignKey) (alter : AlterConstraints) (ids : IdCounter) :
    List.Forall₂ (fun before after => after.outline = before.outline ∧
        match lastClause? tables alter.primaryKeys before with
        | some clause => ∀ place column, after.columns[place]? = some column →
            (column.isPrimaryKey = true ↔ ∃ name ∈ clause.columns, before.position? name = some place)
        | none => after.keyMarks = before.keyMarks)
      tables (merge tables keys alter ids).tables ∧
    (merge tables keys alter ids).warnings =
      alter.primaryKeys.flatMap (PrimaryKeyClause.complaints tables) ++
        (merge tables keys { alter with primaryKeys := [] } ids).warnings := by
  have outlines := outlines_mergedTables tables alter ids
  refine ⟨List.forall₂_iff_get.mpr ⟨?_, fun position bound bound' => ?_⟩, ?_⟩
  · rw [merge_eq]
    simpa using (congrArg List.length outlines).symm
  · simp only [merge_eq, List.get_eq_getElem] at bound' ⊢
    have here := List.getElem?_eq_getElem bound
    have there := List.getElem?_eq_getElem bound'
    have outline := getElem?_outline outlines position
    have marks := keyMarks_mergedTables tables alter ids position
    rw [here, there, Option.map_some, Option.map_some, Option.some_inj] at outline marks
    rw [lastClauseAt?_eq_lastClause? distinct here] at marks
    refine ⟨outline, ?_⟩
    split
    · next clause last =>
      rw [last] at marks
      intro place column found
      have inside : place < tables[position].columns.length := by
        have lengths := congrArg List.length (Table.names_of_outline outline)
        rw [List.length_map, List.length_map] at lengths
        exact lengths ▸ (List.getElem?_eq_some_iff.mp found).1
      have mark := congrArg (·[place]?) marks
      simp only [Table.keyMarks, Table.keyMarksOf, List.getElem?_map, found, Option.map_some,
        List.getElem?_range inside, Option.some.injEq] at mark
      rw [mark, decide_eq_true_iff, Table.positions, List.mem_filterMap]
    · next none =>
      rw [none] at marks
      exact marks
  · have listed : alter.amendments =
        alter.primaryKeys.map PrimaryKeyClause.amendment ++ alter.keyless.amendments := by
      simp [AlterConstraints.amendments, AlterConstraints.keyless]
    have complaints : ∀ clause : PrimaryKeyClause,
        clause.amendment.warnings tables = clause.complaints tables := warnings_amendment distinct
    simp only [merge_eq, listed, List.flatMap_append, List.flatMap_map, complaints, List.append_assoc]
    rfl

/-- Three clauses in several cases, one of them for no table: the last one for `Users` names
its second column under two cases and one that it does not have. -/
theorem last_key_decides_mixed :
    let column : String → Bool → Column := fun name key =>
      ⟨name, name, "INT", key, none, !key, false, false, false, none, none, none⟩
    let tables : List Table := [{ name := "Users", columns := [column "Id" true, column "Code" false] },
      { name := "t", columns := [column "a" true] }]
    let alter : AlterConstraints :=
      { primaryKeys := [⟨"users", ["ID"]⟩, ⟨"ghost", ["id"]⟩, ⟨"USERS", ["code", "x", "CODE"]⟩] }
    let merged := merge tables [] alter .start
    (tables.map Table.name).Nodup ∧
    (lastClause? tables alter.primaryKeys { name := "Users", columns :=
      [column "Id" true, column "Code" false] }).map PrimaryKeyClause.columns =
        some ["code", "x", "CODE"] ∧
    merged.tables.map Table.keyMarks = [[false, true], [true]] ∧
    merged.warnings = [.alteredTableMissing "ghost", .keyColumnMissing "x" "Users"] := by
  intro column tables alter merged
  have distinct : (tables.map Table.name).Nodup := by decide
  refine ⟨distinct, by decide +kernel, by decide +kernel,
    (last_key_decides distinct [] alter .start).2.trans ?_⟩
  decide +kernel

end DdlSchema.Schema
