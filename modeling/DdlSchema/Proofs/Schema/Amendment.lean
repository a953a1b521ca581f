import DdlSchema.Proofs.Schema.Change

/-! Merging as a list of amendments, each a few changes to the table that a name stands for. -/

set_option autoImplicit false

namespace DdlSchema.Schema

def changeAt (state : List Table × IdCounter) (position : Nat) (changes : List Change) :
    List Table × IdCounter :=
  match state.1[position]? with
  | some table =>
    let (table, ids) := Change.applyAll (table, state.2) changes
    (state.1.set position table, ids)
  | none => state

/-- Makes the changes to the table the name stands for, if there is one. -/
def changeNamed (state : List Table × IdCounter) (amendment : String × List Change) :
    List Table × IdCounter :=
  match findTable? state.1 amendment.1 with
  | some position => changeAt state position amendment.2
  | none => state

section

variable {α : Type} (reading : Table → α)

/-- What the changes leave alone in the table they are for is left alone in all tables. -/
theorem map_changeAt (state : List Table × IdCounter) (position : Nat) (changes : List Change)
    (kept : ∀ table, reading (Change.applyAll (table, state.2) changes).1 = reading table) :
    (changeAt state position changes).1.map reading = state.1.map reading := by
  unfold changeAt
  split
  · next table here =>
    exact map_set_eq reading here (kept table)
  · rfl

theorem map_foldl_changeNamed (state : List Table × IdCounter)
    (amendments : List (String × List Change))
    (kept : ∀ amendment ∈ amendments, ∀ table ids,
      reading (Change.applyAll (table, ids) amendment.2).1 = reading table) :
    (amendments.foldl changeNamed state).1.map reading = state.1.map reading := by
  induction amendments generalizing state with
  | nil => rfl
  | cons amendment rest ih =>
    rw [List.foldl_cons, ih _ fun later member => kept later (List.mem_cons_of_mem _ member)]
    unfold changeNamed
    split
    · exact map_changeAt reading _ _ _ fun table => kept amendment List.mem_cons_self table _
    · rfl

end

theorem outlines_foldl_changeNamed (state : List Table × IdCounter)
    (amendments : List (String × List Change)) :
    (amendments.foldl changeNamed state).1.map Table.outline = state.1.map Table.outline :=
  map_foldl_changeNamed Table.outline state amendments fun _ _ _ _ => Change.outline_applyAll _ _

theorem outlines_changeNamed (state : List Table × IdCounter) (amendment : String × List Change) :
    (changeNamed state amendment).1.map Table.outline = state.1.map Table.outline :=
  outlines_foldl_changeNamed state [amendment]

theorem forall_tables_changeNamed {P : Table → Prop} {amendments : List (String × List Change)}
    (state : List Table × IdCounter)
    (kept : ∀ amendment ∈ amendments, ∀ table ids,
      P table → P (Change.applyAll (table, ids) amendment.2).1)
    (holds : ∀ table ∈ state.1, P table) :
    ∀ table ∈ (amendments.foldl changeNamed state).1, P table := by
  induction amendments generalizing state with
  | nil => exact holds
  | cons amendment rest ih =>
    refine ih _ (fun later member => kept later (List.mem_cons_of_mem _ member)) ?_
    unfold changeNamed
    split
    · unfold changeAt
      split
      · next table here =>
        intro changed member
        rcases List.mem_or_eq_of_mem_set member with old | rfl
        · exact holds _ old
        · exact kept amendment List.mem_cons_self table _ (holds table (List.mem_of_getElem? here))
      · exact holds
    · exact holds

theorem forall_changeNamed {P : Column → Prop} {amendments : List (String × List Change)}
    (state : List Table × IdCounter)
    (kept : ∀ amendment ∈ amendments, ∀ change ∈ amendment.2, ∀ column,
      P column → P (change.mark.apply column))
    (holds : ∀ table ∈ state.1, ∀ column ∈ table.columns, P column) :
    ∀ table ∈ (amendments.foldl changeNamed state).1, ∀ column ∈ table.columns, P column :=
  forall_tables_changeNamed state
    (fun amendment member table ids => Change.forall_applyAll (table, ids) (kept amendment member)) holds

/-! Clauses as amendments. -/

/-- What a clause changes in the table it names, and the columns that it must find there. -/
structure Amendment where
  table : String
  changes : List Change
  required : List String := []
  deriving DecidableEq, Repr

def PrimaryKeyClause.amendment (clause : PrimaryKeyClause) : Amendment :=
  ⟨clause.table, [.clearKeys, .key clause.columns], clause.columns⟩

def UniqueKeyClause.amendment (clause : UniqueKeyClause) : Amendment :=
  { table := clause.table, changes := [.unique clause.name clause.columns] }

def AutoIncrementClause.amendment (clause : AutoIncrementClause) : Amendment :=
  { table := clause.table, changes := [.increment clause.column] }

def IndexClause.amendment (clause : IndexClause) : Amendment :=
  { table := clause.table, changes := [.plainIndex clause.name clause.columns clause.kind] }

/-- The clauses other than foreign keys in the order in which they are merged. -/
def AlterConstraints.amendments (alter : AlterConstraints) : List Amendment :=
  alter.primaryKeys.map PrimaryKeyClause.amendment ++ alter.uniqueKeys.map UniqueKeyClause.amendment ++
    alter.autoIncrements.map AutoIncrementClause.amendment ++ alter.indexes.map IndexClause.amendment

/-- What is wrong with an amendment of these tables. -/
def Amendment.warnings (tables : List Table) (amendment : Amendment) : List Warning :=
  match (findTable? tables amendment.table).bind fun position => tables[position]? with
  | some table =>
    (table.missing amendment.required).map fun name => .keyColumnMissing name table.name
  | none => [.alteredTableMissing amendment.table]

def MergeState.amend (state : MergeState) (amendment : Amendment) : MergeState :=
  let (tables, ids) := changeNamed (state.tables, state.ids) (amendment.table, amendment.changes)
  ⟨tables, ids, state.warnings ++ amendment.warnings state.tables⟩

theorem Amendment.warnings_congr {tables others : List Table}
    (same : tables.map Table.outline = others.map Table.outline) (amendment : Amendment) :
    amendment.warnings tables = amendment.warnings others := by
  simp only [warnings, findTable?_congr (names_of_outlines same)]
  cases findTable? others amendment.table with
  | none => rfl
  | some position =>
    have here := getElem?_outline same position
    simp only [Option.bind_some]
    cases first : tables[position]? <;> cases second : others[position]?
    · rfl
    · simp [first, second] at here
    · simp [first, second] at here
    · simp only [first, second, Option.map_some, Option.some.injEq] at here
      simp only [Table.missing_congr here, Table.name_of_outline here]

section

variable (state : MergeState)

theorem MergeState.withTable_eq_amend (amendment : Amendment) (change : Nat → Table → MergeState)
    (agrees : ∀ position table, state.tables[position]? = some table → change position table =
      ⟨state.tables.set position (Change.applyAll (table, state.ids) amendment.changes).1,
        (Change.applyAll (table, state.ids) amendment.changes).2,
        state.warnings ++
          (table.missing amendment.required).map fun name => .keyColumnMissing name table.name⟩) :
    state.withTable amendment.table change = state.amend amendment := by
  simp only [withTable, amend, changeNamed, Amendment.warnings, changeAt]
  cases found : findTable? state.tables amendment.table with
  | none => rfl
  | some position =>
    have bound := findTable?_lt found
    simp only [Option.bind_some, List.getElem?_eq_getElem bound, Option.map_some]
    exact agrees position _ (List.getElem?_eq_getElem bound)

theorem MergeState.primaryKey_eq_amend (clause : PrimaryKeyClause) :
    state.primaryKey clause = state.amend clause.amendment := by
  refine state.withTable_eq_amend clause.amendment _ fun position table _ => ?_
  have same := Change.outline_apply (table, state.ids) .clearKeys
  simp only [Change.apply_clearKeys] at same
  simp only [foldl_markKeyColumn, PrimaryKeyClause.amendment, Change.applyAll_cons, Change.applyAll_nil,
    Change.apply_clearKeys, Change.apply_key, setTable, ← Table.missing_congr same]
  rfl

theorem MergeState.uniqueKey_eq_amend (clause : UniqueKeyClause) :
    state.uniqueKey clause = state.amend clause.amendment := by
  refine state.withTable_eq_amend clause.amendment _ fun position table _ => ?_
  simp only [Table.addUnique_eq_apply, setTable, UniqueKeyClause.amendment, Change.applyAll_cons,
    Change.applyAll_nil, Table.missing, List.filter_nil, List.map_nil, List.append_nil]

theorem MergeState.index_eq_amend (clause : IndexClause) :
    state.index clause = state.amend clause.amendment := by
  refine state.withTable_eq_amend clause.amendment _ fun position table _ => ?_
  simp only [Table.addPlainIndex_eq_apply, setTable, IndexClause.amendment, Change.applyAll_cons,
    Change.applyAll_nil, Table.missing, List.filter_nil, List.map_nil, List.append_nil]

theorem MergeState.autoIncrement_eq_amend (clause : AutoIncrementClause) :
    state.autoIncrement clause = state.amend clause.amendment := by
  refine state.withTable_eq_amend clause.amendment _ fun position table here => ?_
  simp only [AutoIncrementClause.amendment, Change.applyAll_cons, Change.applyAll_nil, Table.missing,
    List.filter_nil, List.map_nil, List.append_nil, Change.apply_increment]
  cases found : table.position? clause.column with
  | none =>
    obtain ⟨bound, rfl⟩ := List.getElem?_eq_some_iff.mp here
    simp [Table.positions, found]
  | some place =>
    simp only [Table.positions, List.filterMap_cons, found, List.filterMap_nil,
      ← Table.modifyColumn_eq_mark]
    rfl

theorem foldl_amend (alter : AlterConstraints) :
    alter.indexes.foldl MergeState.index (alter.autoIncrements.foldl MergeState.autoIncrement
      (alter.uniqueKeys.foldl MergeState.uniqueKey
        (alter.primaryKeys.foldl MergeState.primaryKey state))) =
      alter.amendments.foldl MergeState.amend state := by
  have keys : MergeState.primaryKey = fun state clause => state.amend clause.amendment :=
    funext fun state => funext state.primaryKey_eq_amend
  have uniques : MergeState.uniqueKey = fun state clause => state.amend clause.amendment :=
    funext fun state => funext state.uniqueKey_eq_amend
  have increments : MergeState.autoIncrement = fun state clause => state.amend clause.amendment :=
    funext fun state => funext state.autoIncrement_eq_amend
  have indexes : MergeState.index = fun state clause => state.amend clause.amendment :=
    funext fun state => funext state.index_eq_amend
  simp only [keys, uniques, increments, indexes, AlterConstraints.amendments, List.foldl_append,
    List.foldl_map]

end

end DdlSchema.Schema
