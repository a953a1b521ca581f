import DdlSchema.Proofs.Schema.Amendment

/-! What a merge comes to: its tables are a run of changes, and its foreign keys and warnings are read
off the names of the tables it starts from. -/

set_option autoImplicit false

namespace DdlSchema.Schema

/-! A foreign key under the names that the tables have for it. -/

theorem resolveForeignKey_eq_ok {tables : List Table} {key resolved : ForeignKey}
    {position place : Nat} (found : resolveForeignKey tables key = .ok (position, place, resolved)) :
    ∃ table column, findTable? tables key.table = some position ∧ tables[position]? = some table ∧
      table.position? key.column = some place ∧ table.columns[place]? = some column ∧
      resolved = { key with table := table.name, column := column.name } := by
  unfold resolveForeignKey at found
  split at found
  · cases found
  · next position table here =>
    split at found
    · cases found
    · next place column there =>
      cases found
      obtain ⟨_, named, here⟩ := Option.bind_eq_some_iff.mp here
      obtain ⟨_, same, here⟩ := Option.map_eq_some_iff.mp here
      cases here
      obtain ⟨_, known, there⟩ := Option.bind_eq_some_iff.mp there
      obtain ⟨_, also, there⟩ := Option.map_eq_some_iff.mp there
      cases there
      exact ⟨table, column, named, same, known, also, rfl⟩

/-- The key as it is merged, if there is a column for it. -/
def acceptedKey? (tables : List Table) (key : ForeignKey) : Option ForeignKey :=
  match resolveForeignKey tables key with
  | .ok (_, _, resolved) => some resolved
  | .error _ => none

/-- Why the key is not merged, if there is no column for it. -/
def refusal? (tables : List Table) (key : ForeignKey) : Option Warning :=
  match resolveForeignKey tables key with
  | .ok _ => none
  | .error warning => some warning

/-- Which table and column a foreign key means is a matter of names alone. -/
theorem resolveForeignKey_congr {tables others : List Table}
    (same : tables.map Table.outline = others.map Table.outline) (key : ForeignKey) :
    resolveForeignKey tables key = resolveForeignKey others key := by
  simp only [resolveForeignKey, findTable?_congr (names_of_outlines same)]
  cases found : findTable? others key.table with
  | none => rfl
  | some position =>
    -- table and column stand at the same places in both lists
    have bound : position < others.length := findTable?_lt found
    have bound' : position < tables.length := by
      have lengths := congrArg List.length same
      simp only [List.length_map] at lengths
      omega
    have here : tables[position].outline = others[position].outline := by
      simpa [bound, bound'] using getElem?_outline same position
    simp only [Option.bind_some, List.getElem?_eq_getElem bound, List.getElem?_eq_getElem bound',
      Option.map_some, Table.position?_congr here]
    cases known : others[position].position? key.column with
    | none => rfl
    | some place =>
      have inside := Table.position?_lt known
      have inside' : place < tables[position].columns.length :=
        Table.position?_lt ((Table.position?_congr here key.column).trans known)
      have column : tables[position].columns[place].name = others[position].columns[place].name := by
        simpa [inside, inside'] using Table.resolved_congr here place
      simp only [Option.bind_some, List.getElem?_eq_getElem inside, List.getElem?_eq_getElem inside',
        Option.map_some, column, Table.name_of_outline here]

theorem acceptedKey?_congr {tables others : List Table}
    (same : tables.map Table.outline = others.map Table.outline) :
    acceptedKey? tables = acceptedKey? others := by
  funext key; simp only [acceptedKey?, resolveForeignKey_congr same]

theorem refusal?_congr {tables others : List Table}
    (same : tables.map Table.outline = others.map Table.outline) :
    refusal? tables = refusal? others := by
  funext key; simp only [refusal?, resolveForeignKey_congr same]

def ForeignKey.change (key : ForeignKey) : String × List Change :=
  (key.table, [.link key.column key.target])

theorem changeNamed_link_ids (state : List Table × IdCounter) (key : ForeignKey) :
    (changeNamed state key.change).2 = state.2 := by
  unfold changeNamed changeAt
  split
  · split <;> rfl
  · rfl

theorem ids_foldl_link (state : List Table × IdCounter) (keys : List ForeignKey) :
    ((keys.map ForeignKey.change).foldl changeNamed state).2 = state.2 := by
  induction keys generalizing state with
  | nil => rfl
  | cons key rest ih => rw [List.map_cons, List.foldl_cons, ih, changeNamed_link_ids]

theorem set_getElem_eq_modify {α : Type} (list : List α) (position : Nat) (change : α → α)
    (bound : position < list.length) :
    list.set position (change list[position]) = list.modify position change := by
  refine List.ext_getElem? fun place => ?_
  by_cases same : position = place
  · subst same; simp [bound]
  · simp [same]

theorem changeNamed_link (tables : List Table) (ids : IdCounter) (key : ForeignKey) :
    (changeNamed (tables, ids) key.change).1 =
      match resolveForeignKey tables key with
      | .ok (position, place, _) =>
        tables.modify position fun table => table.mark [place] (.foreignKey key.target)
      | .error _ => tables := by
  simp only [resolveForeignKey, changeNamed, changeAt, ForeignKey.change]
  cases found : findTable? tables key.table with
  | none => rfl
  | some position =>
    have bound := findTable?_lt found
    simp only [Option.bind_some, List.getElem?_eq_getElem bound, Option.map_some,
      Change.applyAll_cons, Change.applyAll_nil, Change.apply_link, Table.positions,
      List.filterMap_cons, List.filterMap_nil]
    cases known : tables[position].position? key.column with
    | none => simp
    | some place =>
      have inside := Table.position?_lt known
      simp only [Option.bind_some, List.getElem?_eq_getElem inside, Option.map_some]
      exact set_getElem_eq_modify tables position
        (fun table => table.mark [place] (.foreignKey key.target)) bound

theorem foreignKey_step (state : MergeState) (keys : List ForeignKey) (key : ForeignKey) :
    MergeState.foreignKey (state, keys) key =
      (⟨(changeNamed (state.tables, state.ids) key.change).1, state.ids,
          state.warnings ++ (refusal? state.tables key).toList⟩,
        keys ++ (acceptedKey? state.tables key).toList) := by
  simp only [MergeState.foreignKey, refusal?, acceptedKey?, changeNamed_link,
    ← Table.modifyColumn_eq_mark]
  cases resolveForeignKey state.tables key with
  | error warning => simp [MergeState.warn]
  | ok found =>
    simp
    rfl

theorem foldl_foreignKey (state : MergeState) (keys added : List ForeignKey) :
    added.foldl MergeState.foreignKey (state, keys) =
      (⟨((added.map ForeignKey.change).foldl changeNamed (state.tables, state.ids)).1, state.ids,
          state.warnings ++ added.filterMap (refusal? state.tables)⟩,
        keys ++ added.filterMap (acceptedKey? state.tables)) := by
  -- whether a key is accepted is a matter of outlines, which the keys before it leave alone
  induction added generalizing state keys with
  | nil => simp
  | cons key rest ih =>
    have same := outlines_changeNamed (state.tables, state.ids) key.change
    have ids : changeNamed (state.tables, state.ids) key.change =
        ((changeNamed (state.tables, state.ids) key.change).1, state.ids) :=
      Prod.ext rfl (changeNamed_link_ids _ _)
    rw [List.foldl_cons, foreignKey_step, ih, acceptedKey?_congr same, refusal?_congr same,
      List.map_cons, List.foldl_cons, ids]
    cases kept : acceptedKey? state.tables key <;> cases dropped : refusal? state.tables key <;>
      simp [kept, dropped]

/-! The merge as a whole. -/

/-- Everything that the clauses change, by the name of the table, in the order of the merge. -/
def AlterConstraints.changes (alter : AlterConstraints) : List (String × List Change) :=
  (alter.amendments.map fun amendment => (amendment.table, amendment.changes)) ++
    alter.foreignKeys.map ForeignKey.change

theorem foldl_amend_eq (amendments : List Amendment) (state : MergeState) :
    amendments.foldl MergeState.amend state =
      ⟨((amendments.map fun amendment => (amendment.table, amendment.changes)).foldl changeNamed
          (state.tables, state.ids)).1,
        ((amendments.map fun amendment => (amendment.table, amendment.changes)).foldl changeNamed
          (state.tables, state.ids)).2,
        state.warnings ++ amendments.flatMap (Amendment.warnings state.tables)⟩ := by
  induction amendments generalizing state with
  | nil => simp
  | cons amendment rest ih =>
    have same := outlines_changeNamed (state.tables, state.ids) (amendment.table, amendment.changes)
    have warnings : Amendment.warnings (state.amend amendment).tables =
        Amendment.warnings state.tables :=
      funext fun later => Amendment.warnings_congr same later
    rw [List.foldl_cons, ih, warnings]
    simp [MergeState.amend]

section

variable (tables : List Table) (keys : List ForeignKey) (alter : AlterConstraints) (ids : IdCounter)

/-- The foreign keys of a merge, before their cardinality is known. -/
def mergedKeys : List ForeignKey := keys ++ alter.foreignKeys.filterMap (acceptedKey? tables)

def mergedTables : List Table × IdCounter := alter.changes.foldl changeNamed (tables, ids)

def amended : List Table × IdCounter :=
  (alter.amendments.map fun amendment => (amendment.table, amendment.changes)).foldl changeNamed
    (tables, ids)

theorem outlines_mergedTables :
    (mergedTables tables alter ids).1.map Table.outline = tables.map Table.outline :=
  outlines_foldl_changeNamed _ _

theorem missingTargets_congr {tables others : List Table}
    (same : tables.map Table.name = others.map Table.name) (keys : List ForeignKey) :
    missingTargets tables keys = missingTargets others keys := by
  simp only [missingTargets, findTable?_congr same]

theorem merge_eq : merge tables keys alter ids =
    { tables := (mergedTables tables alter ids).1
      foreignKeys := (mergedKeys tables keys alter).map
        (withCardinality (mergedTables tables alter ids).1)
      ids := (mergedTables tables alter ids).2
      warnings := alter.amendments.flatMap (Amendment.warnings tables) ++
        alter.foreignKeys.filterMap (refusal? tables) ++
        missingTargets tables (mergedKeys tables keys alter) } := by
  have same : (amended tables alter ids).1.map Table.outline = tables.map Table.outline :=
    outlines_foldl_changeNamed _ _
  -- foreign keys come last and draw no ids
  have linked : mergedTables tables alter ids =
      (alter.foreignKeys.map ForeignKey.change).foldl changeNamed (amended tables alter ids) := by
    simp only [mergedTables, AlterConstraints.changes, List.foldl_append, amended]
  have names := names_of_outlines (outlines_mergedTables tables alter ids)
  have left : (mergedTables tables alter ids).2 = (amended tables alter ids).2 := by
    rw [linked, ids_foldl_link]
  have state : alter.amendments.foldl MergeState.amend ⟨tables, ids, []⟩ =
      ⟨(amended tables alter ids).1, (amended tables alter ids).2,
        alter.amendments.flatMap (Amendment.warnings tables)⟩ :=
    foldl_amend_eq alter.amendments ⟨tables, ids, []⟩
  simp only [merge, foldl_amend, state, foldl_foreignKey, acceptedKey?_congr same,
    refusal?_congr same, ← linked, missingTargets_congr names, left, mergedKeys]

end

end DdlSchema.Schema
