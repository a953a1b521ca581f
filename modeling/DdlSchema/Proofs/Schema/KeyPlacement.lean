import DdlSchema.Proofs.Schema.Defining
import DdlSchema.Proofs.Schema.Merging

/-! A primary key declared along with the table, and the same key altered in. The two tables differ in
at most one column: the one that was taken for the key until the statement came that names it. That
column is no key any more, but it stays closed to nulls. -/

set_option autoImplicit false

namespace DdlSchema.Schema

open DdlSchema.Ddl DdlSchema.Text

/-! Key marks go past everything but a reset of the keys. -/

theorem Table.mark_comm (table : Table) (first second : List Nat) (mark other : Mark)
    (commute : ∀ column, other.apply (mark.apply column) = mark.apply (other.apply column)) :
    (table.mark first mark).mark second other = (table.mark second other).mark first mark := by
  simp only [Table.mark, List.mapIdx_mapIdx]
  congr 2
  funext place column
  by_cases inFirst : place ∈ first <;> by_cases inSecond : place ∈ second <;>
    simp [inFirst, inSecond, commute]

theorem Mark.apply_primaryKey_comm {mark : Mark} (keeps : mark ≠ .noKey) (column : Column) :
    mark.apply (Mark.primaryKey.apply column) = Mark.primaryKey.apply (mark.apply column) := by
  cases mark with
  | noKey => exact absurd rfl keeps
  | primaryKey | unique | autoIncrement | indexed | foreignKey target => rfl

namespace Change

theorem apply_keyed (table : Table) (ids : IdCounter) (places : List Nat) {change : Change}
    (keeps : change.mark ≠ .noKey) :
    apply (table.mark places .primaryKey, ids) change =
      ((apply (table, ids) change).1.mark places .primaryKey, (apply (table, ids) change).2) := by
  have same := outline_mark table places .primaryKey
  have marked := table.mark_comm places (change.positions table) _ _ (Mark.apply_primaryKey_comm keeps)
  simp only [apply_eq, newIndex?_congr same, positions_congr same, marked]
  split <;> rfl

theorem applyAll_keyed (table : Table) (ids : IdCounter) (places : List Nat) {changes : List Change}
    (keeps : ∀ change ∈ changes, change.mark ≠ .noKey) :
    applyAll (table.mark places .primaryKey, ids) changes =
      ((applyAll (table, ids) changes).1.mark places .primaryKey,
        (applyAll (table, ids) changes).2) := by
  induction changes generalizing table ids with
  | nil => rfl
  | cons change rest ih =>
    rw [applyAll_cons, apply_keyed table ids places (keeps change List.mem_cons_self),
      ih _ _ fun later member => keeps later (List.mem_cons_of_mem _ member)]
    rfl

end Change

theorem constraintChanges_keep {constraint : Option String × Constraint} {change : Change}
    (member : change ∈ constraintChanges constraint) : change.mark ≠ .noKey := by
  rcases mark_constraintChanges member with ⟨mark, -⟩ | mark | mark | ⟨target, mark⟩ <;>
    exact fun none => Mark.noConfusion (mark.symm.trans none)

/-! A definition with the key and without it. -/

section

variable (ids : IdCounter) (dialect : Dialect) (definition : CreateTable) (before after : List Element)

theorem constrained_key {key : Element} {label : Option String} {names : List String}
    (declares : constraintsOf key = [(label, .primaryKey (some names))]) :
    let plain := constrained ids dialect (listing definition (before ++ after))
    let keyed := constrained ids dialect (listing definition (before ++ key :: after))
    keyed.table = plain.table.mark (plain.table.positions names) .primaryKey ∧
      keyed.ids = plain.ids ∧ keyed.foreignKeys = plain.foreignKeys ∧ keyed.hasExplicitKey = true := by
  intro plain keyed
  have parts : columnParts? key = none := columnParts?_constraint (declares ▸ List.mem_singleton_self _)
  have start : startTable (tableName definition) dialect (before ++ key :: after) ids =
      startTable (tableName definition) dialect (before ++ after) ids :=
    startTable_congr (by simp [parts]) _ _ _
  have keeps : ∀ change ∈ (after.flatMap constraintsOf).flatMap constraintChanges,
      change.mark ≠ .noKey := fun change member => by
    obtain ⟨constraint, -, made⟩ := List.mem_flatMap.mp member
    exact constraintChanges_keep made
  have positions : plain.table.positions names =
      (startTable (tableName definition) dialect (before ++ after) ids).table.positions names := by
    simp only [plain, constrained_eq]
    exact Table.positions_congr (Change.outline_applyAll _ _) names
  rw [positions]
  simp only [plain, keyed, constrained_eq, tableConstraints, entries_listing, tableName_listing, start,
    List.flatMap_append, List.flatMap_cons, declares, Defining.after, Change.applyAll_append]
  generalize startTable (tableName definition) dialect (before ++ after) ids = start
  -- the table when the key is reached
  have outline := Change.outline_applyAll (start.table, start.ids)
    ((before.flatMap constraintsOf).flatMap constraintChanges)
  generalize Change.applyAll (start.table, start.ids)
    ((before.flatMap constraintsOf).flatMap constraintChanges) = middle at outline ⊢
  have marked : Change.applyAll middle (constraintChanges (label, .primaryKey (some names))) =
      (middle.1.mark (start.table.positions names) .primaryKey, middle.2) := by
    rw [← Table.positions_congr outline]
    rfl
  rw [List.flatMap_nil, Change.applyAll_nil, marked, Change.applyAll_keyed _ _ _ keeps]
  exact ⟨rfl, rfl, rfl, by simp [keyColumns?]⟩

end

/-! Tables without a key. -/

def Table.Keyless (table : Table) : Prop := ∀ column ∈ table.columns, column.isPrimaryKey = false

theorem mark_of_keyless {constraint : Option String × Constraint} {change : Change}
    (keyless : keyColumns? constraint.2 = none) (member : change ∈ constraintChanges constraint) :
    change.mark ≠ .primaryKey := by
  rcases mark_constraintChanges member with ⟨-, declared⟩ | mark | mark | ⟨target, mark⟩
  · rw [keyless] at declared
    cases declared
  all_goals exact fun key => Mark.noConfusion (mark.symm.trans key)

theorem Mark.isPrimaryKey_apply {mark : Mark} (other : mark ≠ .primaryKey) {column : Column}
    (keyless : column.isPrimaryKey = false) : (mark.apply column).isPrimaryKey = false := by
  cases mark with
  | primaryKey => exact absurd rfl other
  | noKey => rfl
  | unique | autoIncrement | indexed | foreignKey target => exact keyless

theorem keyless_constrained (ids : IdCounter) (dialect : Dialect) {definition : CreateTable}
    (keyless : declaresKey definition = false) : (constrained ids dialect definition).table.Keyless := by
  obtain ⟨columns, constraints⟩ := Bool.or_eq_false_iff.mp keyless
  rw [constrained_eq]
  refine Change.forall_applyAll _ (fun change member column => ?_) fun column member => ?_
  · obtain ⟨constraint, inside, made⟩ := List.mem_flatMap.mp member
    have undeclared := List.any_eq_false.mp constraints constraint inside
    exact Mark.isPrimaryKey_apply (mark_of_keyless (by simpa using undeclared) made)
  · rw [← hasExplicitKey_start (tableName definition) dialect definition.entries ids] at columns
    exact Bool.eq_false_iff.mpr (List.any_eq_false.mp columns column member)

/-- The column that stands for the key where none is declared. -/
def Table.guess? (table : Table) : Option Nat := implicitKey? table.name table.columns

/-- The table with that column closed to nulls. -/
def Table.closeGuess (table : Table) : Table :=
  match table.guess? with
  | some place => table.modifyColumn place fun column => { column with isNullable := false }
  | none => table

theorem Table.guess?_markKey (table : Table) (places : List Nat) :
    (table.mark places .primaryKey).guess? = table.guess? :=
  implicitKey?_congr (table.map_mark _ (fun _ => rfl) places) table.name

theorem Table.guess?_decorate (table : Table) (properties : List Property) :
    (table.decorate properties).guess? = table.guess? := by
  have apart := table.decorate_apart properties
  simp only [guess?, apart.1, apart.2.1]

theorem Table.Keyless.replaceGuess {table : Table} (keyless : table.Keyless) (ids : IdCounter)
    (names : List String) :
    (Change.applyAll (table.mark table.guess?.toList .primaryKey, ids) [.clearKeys, .key names]).1 =
      (table.mark (table.positions names) .primaryKey).closeGuess := by
  have outline := Change.outline_mark table table.guess?.toList .primaryKey
  have cleared := Change.outline_apply (table.mark table.guess?.toList .primaryKey, ids) .clearKeys
  rw [Change.apply_clearKeys] at cleared
  rw [Change.applyAll_cons, Change.applyAll_cons, Change.applyAll_nil, Change.apply_clearKeys,
    Change.apply_key, Table.positions_congr (cleared.trans outline), closeGuess, guess?_markKey]
  generalize table.positions names = places
  -- clearing the keys changes nothing but the guess, and of that only the flag
  have unkeyed : ∀ column ∈ table.columns, Mark.noKey.apply column = column := fun column member => by
    simp only [Mark.apply, ← keyless column member]
  cases table.guess? with
  | none =>
    rw [Option.toList_none, Table.mark_nil, List.map_congr_left unkeyed, List.map_id']
  | some guess =>
    simp only [Option.toList_some, modifyColumn, Table.mark]
    congr 1
    refine List.ext_getElem? fun place => ?_
    simp only [List.getElem?_mapIdx, List.getElem?_map, List.getElem?_modify, Option.map_map]
    cases here : table.columns[place]? with
    | none => rfl
    | some column =>
      have free := unkeyed column (List.mem_of_getElem? here)
      by_cases inside : place ∈ places
      · by_cases guessed : guess = place <;> simp [inside, guessed, eq_comm] <;> rfl
      · by_cases guessed : guess = place
        · simp only [guessed, List.mem_singleton, inside, if_true, if_false, Option.map_some,
            Function.comp_apply]
          rw [← free]
          rfl
        · simpa [inside, guessed, eq_comm] using free

/-- Whether the guessed column, if there is one, holds no nulls. -/
def Table.GuessClosed (table : Table) : Prop :=
  ∀ column ∈ table.guess?.bind (table.columns[·]?), column.isNullable = false

instance (table : Table) : Decidable table.GuessClosed :=
  inferInstanceAs (Decidable (∀ column ∈ table.guess?.bind (table.columns[·]?), column.isNullable = false))

theorem Table.closeGuess_eq_self_iff (table : Table) :
    table.closeGuess = table ↔ table.GuessClosed := by
  unfold closeGuess GuessClosed
  cases table.guess? with
  | none => simp
  | some guess =>
    rw [Option.bind_some]
    constructor
    · intro same column here
      have there := congrArg (fun table => table.columns[guess]?) same
      simp only [Option.mem_def] at here
      simp only [modifyColumn, List.getElem?_modify_eq, here, Option.map_eq_map, Option.map_some,
        Option.some.injEq] at there
      rw [← there]
    · intro closed
      simp only [modifyColumn]
      congr 1
      -- only the guessed column is changed, and it is closed already
      refine List.ext_getElem? fun place => ?_
      by_cases guessed : guess = place
      · rw [← guessed, List.getElem?_modify_eq]
        cases here : table.columns[guess]? with
        | none => rfl
        | some column => simp [← closed column here]
      · rw [List.getElem?_modify_ne _ _ guessed]

/-! The two ways to declare a key. -/

theorem merge_key (table : Table) (keys : List ForeignKey) (names : List String) (ids : IdCounter) :
    (merge [table] keys { primaryKeys := [⟨table.name, names⟩] } ids).tables =
      [(Change.applyAll (table, ids) [.clearKeys, .key names]).1] := by
  have own : findTable? [table] table.name = some 0 := findTable?_own (by simp) rfl
  rw [merge_eq]
  simp only [mergedTables, AlterConstraints.changes, AlterConstraints.amendments,
    PrimaryKeyClause.amendment, List.map_cons, List.map_nil, List.append_nil, List.foldl_cons,
    List.foldl_nil, changeNamed, own, changeAt]
  rfl

theorem merge_nothing (tables : List Table) (keys : List ForeignKey) (ids : IdCounter) :
    (merge tables keys {} ids).tables = tables :=
  rfl

section

variable (ids : IdCounter) (dialect : Dialect) (definition : CreateTable)

theorem table_definedTable_keyless (keyless : declaresKey definition = false) :
    let table := (constrained ids dialect definition).table.decorate definition.properties
    (definedTable ids dialect definition).table = table.mark table.guess?.toList .primaryKey := by
  have implied : (constrained ids dialect definition).impliedPlaces =
      (constrained ids dialect definition).table.guess?.toList := by
    simp [Defining.impliedPlaces, hasExplicitKey_constrained, keyless, Table.guess?]
  simp only [definedTable, Defining.finish_eq, implied, Table.decorate_mark, Table.guess?_decorate]

/-- A key that is altered in gives the columns of the declared one, except that the column that stood
for the key before keeps no nulls; so the two are the same exactly if it is closed to nulls anyway. -/
theorem altered_key_iff (before after : List Element) {key : Element} {label : Option String}
    {names : List String} (named : (tableName definition).isEmpty = false)
    (keyless : declaresKey (listing definition (before ++ after)) = false)
    (declares : constraintsOf key = [(label, .primaryKey (some names))]) :
    ∃ defined declared left,
      defineTable ids dialect (listing definition (before ++ after)) = .ok (defined, left) ∧
      defineTable ids dialect (listing definition (before ++ key :: after)) = .ok (declared, left) ∧
      let altered := merge [defined.table] defined.foreignKeys
        { primaryKeys := [⟨defined.table.name, names⟩] } left
      let direct := merge [declared.table] declared.foreignKeys {} left
      altered.tables = direct.tables.map Table.closeGuess ∧
        (altered.tables = direct.tables ↔ declared.table.GuessClosed) := by
  obtain ⟨table, left, keys, explicit⟩ := constrained_key ids dialect definition before after declares
  have guessed := table_definedTable_keyless ids dialect _ keyless
  have direct := congrArg DefinedTable.table (definedTable_keyed ids dialect _ explicit)
  simp only at direct
  rw [table, Table.decorate_mark, properties_listing] at direct
  -- the table without any key, from which both are made
  have free : ((constrained ids dialect (listing definition (before ++ after))).table.decorate
      definition.properties).Keyless := fun column member =>
    keyless_constrained ids dialect keyless column ((Table.decorate_apart _ _).2.1 ▸ member)
  refine ⟨_, _, _, by rw [defineTable_eq, tableName_listing, named]; rfl,
    by rw [defineTable_eq, tableName_listing, named, left]; rfl, ?_⟩
  simp only [merge_key, merge_nothing, List.map_cons, List.map_nil, List.cons.injEq, and_true, guessed,
    properties_listing, ← Table.closeGuess_eq_self_iff]
  have replaced := free.replaceGuess (constrained ids dialect (listing definition (before ++ after))).ids
    names
  rw [Table.positions_congr (Table.outline_decorate _ _), ← direct] at replaced
  exact ⟨replaced, by rw [replaced]⟩

end

theorem altered_key_iff_single :
    let plain : CreateTable := ⟨"t", some [.column ⟨⟨"a", false⟩, some (.known "INT" []), []⟩], []⟩
    (tableName plain).isEmpty = false ∧ declaresKey (listing plain (plain.entries ++ [])) = false ∧
    ∃ defined declared left,
      defineTable .start .postgresql (listing plain (plain.entries ++ [])) = .ok (defined, left) ∧
      defineTable .start .postgresql
        (listing plain (plain.entries ++ [.constraint (.primaryKey (some ["a"]))])) =
          .ok (declared, left) ∧
      ((merge [defined.table] defined.foreignKeys { primaryKeys := [⟨defined.table.name, ["a"]⟩] }
        left).tables = (merge [declared.table] declared.foreignKeys {} left).tables ↔
          declared.table.GuessClosed) := by
  intro plain
  have named : (tableName plain).isEmpty = false := by decide +kernel
  have keyless : declaresKey (listing plain (plain.entries ++ [])) = false := by decide +kernel
  obtain ⟨defined, declared, left, first, second, -, same⟩ := altered_key_iff .start .postgresql plain
    plain.entries [] named keyless
    (show constraintsOf (.constraint (.primaryKey (some ["a"]))) = [(none, _)] from rfl)
  exact ⟨named, keyless, defined, declared, left, first, second, same⟩

/-- A key on another column: `id` was taken for the key of `t`, and is left without nulls. -/
theorem altered_key_differs :
    let columns : List Element := [.column ⟨⟨"id", false⟩, some (.known "INT" []), []⟩,
      .column ⟨⟨"code", false⟩, some (.known "INT" []), []⟩]
    let plain : CreateTable := ⟨"t", some columns, []⟩
    let keyed := listing plain (columns ++ [.constraint (.primaryKey (some ["code"]))])
    let defined := definedTable .start .postgresql plain
    let declared := definedTable .start .postgresql keyed
    let left := (constrained .start .postgresql plain).ids
    declaresKey plain = false ∧
      (merge [defined.table] defined.foreignKeys { primaryKeys := [⟨"t", ["code"]⟩] } left).tables ≠
        (merge [declared.table] declared.foreignKeys {} left).tables := by
  decide +kernel

end DdlSchema.Schema
