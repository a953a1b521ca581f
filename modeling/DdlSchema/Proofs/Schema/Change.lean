import DdlSchema.Proofs.Schema.Outline

/-! The changes that constraints make to a table. Every constraint gives one mark to the columns it
names and may add one index on them, whether it stands in the definition of the table or is altered
in. What holds of each change then holds of whole definitions and of whole merges. -/

set_option autoImplicit false

namespace DdlSchema.Schema

/-- What a constraint says about one column. -/
inductive Mark where
  | noKey
  | primaryKey
  | unique
  | autoIncrement
  | indexed
  | foreignKey (target : Target)
  deriving DecidableEq, Repr

def Mark.apply (column : Column) : Mark → Column
  | .noKey => { column with isPrimaryKey := false }
  | .primaryKey => column.markPrimaryKey
  | .unique => column.markUnique
  | .autoIncrement => { column with autoIncrement := true }
  | .indexed => column.markIndexed
  | .foreignKey target => column.markForeignKey target

theorem Mark.apply_apply (mark : Mark) (column : Column) :
    mark.apply (mark.apply column) = mark.apply column := by
  cases mark <;> rfl

@[simp] theorem Mark.id_apply (mark : Mark) (column : Column) : (mark.apply column).id = column.id := by
  cases mark <;> rfl

@[simp] theorem Mark.name_apply (mark : Mark) (column : Column) :
    (mark.apply column).name = column.name := by
  cases mark <;> rfl

/-- Gives the mark to the columns at these positions. -/
def Table.mark (table : Table) (positions : List Nat) (mark : Mark) : Table :=
  { table with
    columns := table.columns.mapIdx fun place column =>
      if place ∈ positions then mark.apply column else column }

@[simp] theorem Table.mark_nil (table : Table) (mark : Mark) : table.mark [] mark = table := by
  have columns : (table.columns.mapIdx fun _ column => column) = table.columns :=
    List.mapIdx_eq_iff.mpr fun place => by simp
  simp [Table.mark, columns]

theorem Table.getElem?_mark (table : Table) (positions : List Nat) (mark : Mark) (place : Nat) :
    (table.mark positions mark).columns[place]? =
      table.columns[place]?.map fun column =>
        if place ∈ positions then mark.apply column else column := by
  simp [Table.mark]

/-- What a mark leaves of every column, it leaves of the columns of a table. -/
theorem Table.map_mark {α : Type} (reading : Column → α) {mark : Mark}
    (kept : ∀ column, reading (mark.apply column) = reading column) (table : Table)
    (positions : List Nat) :
    (table.mark positions mark).columns.map reading = table.columns.map reading := by
  refine List.ext_getElem? fun place => ?_
  simp only [List.getElem?_map, getElem?_mark, Option.map_map]
  congr 1
  funext column
  by_cases inside : place ∈ positions <;> simp [inside, kept]

theorem Table.mark_append (table : Table) (first second : List Nat) (mark : Mark) :
    table.mark (first ++ second) mark = (table.mark first mark).mark second mark := by
  simp only [Table.mark, List.mapIdx_mapIdx]
  congr 2
  funext place column
  by_cases inFirst : place ∈ first <;> by_cases inSecond : place ∈ second <;>
    simp [inFirst, inSecond, Mark.apply_apply]

theorem Table.modifyColumn_eq_mark (table : Table) (place : Nat) (mark : Mark) :
    table.modifyColumn place mark.apply = table.mark [place] mark := by
  simp only [modifyColumn, Table.mark]
  congr 1
  refine List.ext_getElem? fun position => ?_
  by_cases same : position = place
  · subst same; simp
  · simp [same, List.getElem?_modify_ne _ _ (Ne.symm same)]

theorem Table.modifyColumn_markPrimaryKey (table : Table) (place : Nat) :
    table.modifyColumn place Column.markPrimaryKey = table.mark [place] .primaryKey :=
  table.modifyColumn_eq_mark place .primaryKey

theorem Table.modifyColumns_eq_mark (table : Table) (positions : List Nat) (mark : Mark) :
    table.modifyColumns positions mark.apply = table.mark positions mark := by
  induction positions generalizing table with
  | nil => simp [modifyColumns]
  | cons place rest ih =>
    rw [modifyColumns, List.foldl_cons, ← modifyColumns, ih, modifyColumn_eq_mark, ← mark_append]
    rfl

theorem Table.mark_everywhere (table : Table) (mark : Mark) :
    table.mark (List.range table.columns.length) mark =
      { table with columns := table.columns.map mark.apply } := by
  simp only [Table.mark]
  congr 1
  refine List.ext_getElem? fun place => ?_
  by_cases bound : place < table.columns.length
  · simp [bound]
  · simp [List.getElem?_eq_none (Nat.not_lt.mp bound)]

def Index.withId (index : Index) (id : String) : Index := { index with id }

/-- A mark given to columns, and the index that comes with it. -/
structure Change where
  mark : Mark
  /-- The names of the columns; `none` stands for all columns. -/
  columns : Option (List String)
  /-- The name of the index, if it has one, and its kind. -/
  index : Option (Option String × IndexKind) := none
  deriving DecidableEq, Repr

namespace Change

def clearKeys : Change := { mark := .noKey, columns := none }

def key (columns : List String) : Change := { mark := .primaryKey, columns := some columns }

/-- A unique key has an index only under a name. -/
def unique (name : Option String) (columns : List String) : Change :=
  { mark := .unique, columns := some columns
    index := (name.filter fun name => !name.isEmpty).map fun name => (some name, .unique) }

def increment (column : String) : Change := { mark := .autoIncrement, columns := some [column] }

def plainIndex (name : Option String) (columns : List String) (kind : IndexKind) : Change :=
  { mark := .indexed, columns := some columns
    index := some (name.filter fun name => !name.isEmpty, kind) }

def link (column : String) (target : Target) : Change :=
  { mark := .foreignKey target, columns := some [column] }

def positions (change : Change) (table : Table) : List Nat :=
  match change.columns with
  | some names => table.positions names
  | none => List.range table.columns.length

/-- The table after the change, and the ids that are left. -/
def apply (state : Table × IdCounter) (change : Change) : Table × IdCounter :=
  let places := change.positions state.1
  let marked := state.1.mark places change.mark
  match change.index with
  | none => (marked, state.2)
  | some (name, kind) =>
    if places.isEmpty then (marked, state.2)
    else
      let members := marked.columnsAt places
      marked.addIndex state.2 (name.getD (marked.indexName members)) members kind

def applyAll (state : Table × IdCounter) (changes : List Change) : Table × IdCounter :=
  changes.foldl apply state

@[simp] theorem applyAll_nil (state : Table × IdCounter) : applyAll state [] = state := rfl

@[simp] theorem applyAll_cons (state : Table × IdCounter) (change : Change) (rest : List Change) :
    applyAll state (change :: rest) = applyAll (apply state change) rest := rfl

theorem applyAll_append (state : Table × IdCounter) (first second : List Change) :
    applyAll state (first ++ second) = applyAll (applyAll state first) second :=
  List.foldl_append

/-! Changes without an index. -/

section

variable (table : Table) (ids : IdCounter)

theorem apply_clearKeys : apply (table, ids) clearKeys =
    ({ table with columns := table.columns.map (Mark.apply · .noKey) }, ids) := by
  rw [← table.mark_everywhere .noKey]
  rfl

theorem apply_key (names : List String) :
    apply (table, ids) (key names) = (table.mark (table.positions names) .primaryKey, ids) :=
  rfl

theorem apply_increment (name : String) :
    apply (table, ids) (increment name) = (table.mark (table.positions [name]) .autoIncrement, ids) :=
  rfl

theorem apply_link (name : String) (target : Target) : apply (table, ids) (link name target) =
    (table.mark (table.positions [name]) (.foreignKey target), ids) :=
  rfl

end

/-! What a change comes to: the marks and at most one new index. -/

theorem outline_mark (table : Table) (places : List Nat) (mark : Mark) :
    (table.mark places mark).outline = table.outline := by
  have kept : ∀ column, (mark.apply column).outline = column.outline := fun column => by
    simp [Column.outline]
  exact congrArg (Prod.mk table.name) (table.map_mark Column.outline kept places)

/-- The index that a change adds to a table, still without its id. -/
def newIndex? (change : Change) (table : Table) : Option Index :=
  change.index.bind fun (name, kind) =>
    let members := table.columnsAt (change.positions table)
    if (change.positions table).isEmpty then none
    else some ⟨"", name.getD (table.indexName members), members.map Column.id, kind⟩

theorem positions_congr {table other : Table} (same : table.outline = other.outline)
    (change : Change) : change.positions table = change.positions other := by
  have lengths : table.columns.length = other.columns.length := by
    simpa [Table.outline] using congrArg (fun outline => outline.2.length) same
  unfold positions
  split
  · exact Table.positions_congr same _
  · rw [lengths]

theorem newIndex?_congr {table other : Table} (same : table.outline = other.outline)
    (change : Change) : change.newIndex? table = change.newIndex? other := by
  have members := Table.columnsAt_congr same (change.positions other)
  have ids := congrArg (List.map Prod.fst) members
  have names := congrArg (List.map Prod.snd) members
  simp only [List.map_map, Function.comp_def, Column.outline] at ids names
  simp only [newIndex?, positions_congr same, Table.indexName, Table.name_of_outline same, ids, names]

theorem apply_eq (table : Table) (ids : IdCounter) (change : Change) :
    apply (table, ids) change =
      let marked := table.mark (change.positions table) change.mark
      match change.newIndex? table with
      | some index =>
        ({ marked with indexes := marked.indexes ++ [index.withId (ids.next "idx").1] },
          (ids.next "idx").2)
      | none => (marked, ids) := by
  -- the index is made from the marked table, but only from its outline
  rw [← newIndex?_congr (outline_mark table (change.positions table) change.mark)]
  simp only [apply, newIndex?, positions_congr (outline_mark table (change.positions table) _)]
  cases change.index with
  | none => rfl
  | some index =>
    by_cases unknown : (change.positions table).isEmpty <;> simp [unknown, Table.addIndex, Index.withId]

/-! What a change leaves alone. -/

variable (state : Table × IdCounter) (change : Change)

theorem columns_apply : (apply state change).1.columns =
    (state.1.mark (change.positions state.1) change.mark).columns := by
  rw [apply_eq]
  simp only
  split <;> rfl

@[simp] theorem outline_apply : (apply state change).1.outline = state.1.outline := by
  rw [apply_eq, ← outline_mark state.1 (change.positions state.1) change.mark]
  simp only
  split <;> rfl

theorem outline_applyAll (changes : List Change) :
    (applyAll state changes).1.outline = state.1.outline := by
  induction changes generalizing state with
  | nil => rfl
  | cons change rest ih => rw [applyAll_cons, ih, outline_apply]

/-- Every column after a change is one from before it, with the mark or without. -/
theorem mem_apply {column : Column} (member : column ∈ (apply state change).1.columns) :
    ∃ before ∈ state.1.columns, column = before ∨ column = change.mark.apply before := by
  rw [columns_apply, Table.mark, List.mem_mapIdx] at member
  obtain ⟨place, bound, rfl⟩ := member
  refine ⟨state.1.columns[place], List.getElem_mem bound, ?_⟩
  split
  · exact Or.inr rfl
  · exact Or.inl rfl

/-- A property of columns that no mark of the changes destroys holds after them. -/
theorem forall_applyAll {P : Column → Prop} {changes : List Change}
    (kept : ∀ change ∈ changes, ∀ column, P column → P (change.mark.apply column))
    (holds : ∀ column ∈ state.1.columns, P column) :
    ∀ column ∈ (applyAll state changes).1.columns, P column := by
  induction changes generalizing state with
  | nil => exact holds
  | cons change rest ih =>
    refine ih _ (fun later member => kept later (List.mem_cons_of_mem _ member)) fun column member => ?_
    obtain ⟨before, earlier, rfl | rfl⟩ := mem_apply state change member
    · exact holds _ earlier
    · exact kept change List.mem_cons_self _ (holds _ earlier)

end Change

/-! The operations on tables as changes. -/

theorem Table.addUnique_eq_apply (table : Table) (ids : IdCounter) (name : Option String)
    (columns : List String) :
    table.addUnique ids name columns = Change.apply (table, ids) (.unique name columns) := by
  simp only [addUnique, Change.apply, Change.unique, Change.positions,
    show Column.markUnique = Mark.unique.apply from rfl, modifyColumns_eq_mark]
  cases name with
  | none => rfl
  | some name => by_cases empty : name.isEmpty <;> simp [Option.filter_some, empty]

theorem Table.addPlainIndex_eq_apply (table : Table) (ids : IdCounter) (name : Option String)
    (columns : List String) (kind : IndexKind) :
    table.addPlainIndex ids name columns kind =
      Change.apply (table, ids) (.plainIndex name columns kind) := by
  simp only [addPlainIndex, Change.apply, Change.plainIndex, Change.positions,
    show Column.markIndexed = Mark.indexed.apply from rfl, modifyColumns_eq_mark]
  by_cases unknown : (table.positions columns).isEmpty
  · simp [List.isEmpty_iff.mp unknown]
  · cases name with
    | none => simp [unknown]
    | some name => by_cases empty : name.isEmpty <;> simp [Option.filter_some, unknown, empty]

/-- The columns a key names that the table does not have. -/
def Table.missing (table : Table) (names : List String) : List String :=
  names.filter fun name => (table.position? name).isNone

theorem Table.missing_congr {table other : Table} (same : table.outline = other.outline)
    (names : List String) : table.missing names = other.missing names := by
  simp only [Table.missing, position?_congr same]

theorem foldl_markKeyColumn (table : Table) (warnings : List Warning) (names : List String) :
    names.foldl markKeyColumn (table, warnings) =
      (table.mark (table.positions names) .primaryKey,
        warnings ++ (table.missing names).map fun name => .keyColumnMissing name table.name) := by
  -- each mark leaves the outline, so the rest is looked up in the table as it was
  induction names generalizing table warnings with
  | nil => simp [Table.positions, Table.missing]
  | cons name rest ih =>
    rw [List.foldl_cons]
    cases found : table.position? name with
    | none =>
      simp [markKeyColumn, found, ih, Table.positions, Table.missing]
    | some place =>
      have step : markKeyColumn (table, warnings) name = (table.mark [place] .primaryKey, warnings) := by
        simp only [markKeyColumn, found, Table.modifyColumn_markPrimaryKey]
      have same := Change.outline_mark table [place] .primaryKey
      have split : table.positions (name :: rest) = [place] ++ table.positions rest := by
        simp [Table.positions, found]
      rw [step, ih, Table.positions_congr same, Table.missing_congr same, Table.name_of_outline same,
        split, Table.mark_append]
      simp [Table.missing, found]

end DdlSchema.Schema
