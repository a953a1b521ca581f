import DdlSchema.Proofs.Schema.ReferentialActions
import DdlSchema.Proofs.Schema.Renumbering

/-! A constraint in the definition of a table, and the same constraint altered in. Where the table has a
key of its own the schema is the same either way, up to the order in which things are listed and the
numbers of indexes. -/

set_option autoImplicit false

namespace DdlSchema.Schema

open DdlSchema.Ddl

/-- The column that a reference gives to the column at a position: the one at the same position, the first one
where the list is too short, and "id" where it is empty. -/
def pairedColumn (referenced : List String) (position : Nat) : String :=
  match referenced[position]? with
  | some column => column
  | none => match referenced with
    | first :: _ => first
    | [] => "id"

/-- Of two actions for one event the later one counts, and one beside the reference if the reference has
none. -/
def declaredActions (reference : Reference) (onDelete onUpdate : Option String) : Actions :=
  let entries := reference.options.filterMap EventAction.ofOption?
  { onDelete := (lastAction .delete entries).or (onDelete.bind ReferentialAction.ofText?)
    onUpdate := (lastAction .update entries).or (onUpdate.bind ReferentialAction.ofText?) }

def keyEntries (table : String) (name : Option String) (columns : List String) (target : String)
    (referenced : List String) (actions : Actions) : List ForeignKey :=
  columns.mapIdx fun position column =>
    { table, column
      target := ⟨target, pairedColumn referenced position⟩
      onDelete := actions.onDelete
      onUpdate := actions.onUpdate
      constraintName := name }

/-- The entries of an altered table that declare a constraint. -/
def altering (table : String) : Option String × Constraint → AlterConstraints
  | (name, .unique target) =>
    { uniqueKeys := [⟨table, uniqueColumns target, uniqueName name target⟩] }
  | (name, .foreignKey columns (some reference) onDelete onUpdate) =>
    { foreignKeys := keyEntries table name columns reference.table reference.columns
        (declaredActions reference onDelete onUpdate) }
  | (_, .index definition) =>
    { indexes := [⟨table, definition.parts.map fun part => part.target.keyName,
        definition.name.map Name.text, indexKind definition.kind⟩] }
  | _ => {}

theorem targetColumn_eq (referenced : List String) (position : Nat) :
    targetColumn referenced position = pairedColumn referenced position := by
  rw [targetColumn, List.getD_eq_getElem?_getD]
  unfold pairedColumn
  split
  · next found => rw [found, Option.getD_some]
  · next found =>
    rw [found, Option.getD_none]
    cases referenced <;> rfl

/-- What is matched of an altering clause says the same as the parts of a foreign key in a definition. -/
structure SaysSame (found : Text.Match) (name : Option String) (columns : List String) (reference : Reference)
    (actions : Actions) : Prop where
  name : (found.get? "name").map cleanString = name
  columns : Match.columns found = columns
  table : cleanString ((found.get? "table").getD []) = reference.table
  targets : columnNames ((found.get? "targets").getD []) = reference.columns
  actions : referentialActions ((found.get? "actions").getD []) = .ok actions

theorem SaysSame.readForeignKey_eq {found : Text.Match} {name : Option String} {columns : List String}
    {reference : Reference} {actions : Actions} (same : SaysSame found name columns reference actions)
    (table : String) : readForeignKey table found =
      .ok (keyEntries table name columns reference.table reference.columns actions) := by
  simp only [readForeignKey, same.actions, same.columns, same.table, same.targets, same.name, targetColumn_eq]
  rfl

section

variable (table : String) (constraint : Option String × Constraint)

theorem foreignKeys_altering : (altering table constraint).foreignKeys =
    constraintKeys table constraint := by
  obtain ⟨name, kind⟩ := constraint
  cases kind with
  | foreignKey columns reference onDelete onUpdate =>
    cases reference with
    | none => rfl
    | some reference =>
      have deletes := referenceAction?_eq .delete reference
      have updates := referenceAction?_eq .update reference
      simp only [Event.name] at deletes updates
      simp only [altering, constraintKeys, referenceKey, keyEntries, declaredActions, targetColumn_eq, deletes,
        updates, Option.orElse_eq_orElse, Option.orElse_eq_or]
  | _ => rfl

theorem mem_amendments_altering {amendment : Amendment}
    (member : amendment ∈ (altering table constraint).amendments) :
    amendment.table = table ∧ amendment.required = [] := by
  unfold altering at member
  split at member
  case h_1 | h_3 =>
    simp only [AlterConstraints.amendments, List.map_cons, List.map_nil, List.nil_append,
      List.append_nil, List.mem_singleton] at member
    subst member
    exact ⟨rfl, rfl⟩
  all_goals cases member

theorem changes_altering (beside : keyColumns? constraint.2 = none) :
    (altering table constraint).changes =
      (constraintChanges constraint).map fun change => (table, [change]) := by
  obtain ⟨name, kind⟩ := constraint
  cases kind with
  | unique target | index definition => rfl
  | primaryKey columns =>
    cases columns with
    | none => rfl
    | some columns => cases beside
  | foreignKey columns reference onDelete onUpdate =>
    have keys : ∀ key ∈ constraintKeys table (name, .foreignKey columns reference onDelete onUpdate),
        key.change = (table, [.link key.column key.target]) := fun key member => by
      rw [ForeignKey.change, table_constraintKeys member]
    rw [AlterConstraints.changes, foreignKeys_altering, constraintChanges_foreignKey table,
      List.map_map, List.map_congr_left keys]
    cases reference <;> rfl
  | _ => rfl

end

/-! Changes to one of several tables. -/

section

variable {tables : List Table} {position : Nat} {table : Table}

theorem foldl_changeNamed_own (ids : IdCounter) (distinct : (tables.map Table.name).Nodup)
    (here : tables[position]? = some table) (changes : List Change) :
    (changes.map fun change => (table.name, [change])).foldl changeNamed (tables, ids) =
      (tables.set position (Change.applyAll (table, ids) changes).1,
        (Change.applyAll (table, ids) changes).2) := by
  induction changes generalizing tables table ids with
  | nil =>
    obtain ⟨bound, rfl⟩ := List.getElem?_eq_some_iff.mp here
    simp
  | cons change rest ih =>
    have first : changeNamed (tables, ids) (table.name, [change]) =
        (tables.set position (Change.apply (table, ids) change).1,
          (Change.apply (table, ids) change).2) := by
      simp only [changeNamed, findTable?_own distinct here, changeAt, here]
      rfl
    have outline := Change.outline_apply (table, ids) change
    have names := names_of_outlines (outlines_changeNamed (tables, ids) (table.name, [change]))
    rw [first] at names
    have there : (tables.set position (Change.apply (table, ids) change).1)[position]? =
        some (Change.apply (table, ids) change).1 := by
      obtain ⟨bound, -⟩ := List.getElem?_eq_some_iff.mp here
      simp [bound]
    -- the table keeps its name and place, so the rest finds it there again
    rw [List.map_cons, List.foldl_cons, first, Change.applyAll_cons, ← Table.name_of_outline outline,
      ih _ (names ▸ distinct) there, List.set_set]

theorem acceptedKey?_own (distinct : (tables.map Table.name).Nodup)
    (here : tables[position]? = some table) {key : ForeignKey} (own : key.table = table.name) :
    acceptedKey? tables key = table.ownKey? key := by
  simp only [acceptedKey?, resolveForeignKey, own, findTable?_own distinct here, Option.bind_some, here,
    Option.map_some, Table.ownKey?]
  cases known : table.position? key.column with
  | none => rfl
  | some place =>
    have bound := Table.position?_lt known
    simp [bound, ← own]

theorem refusal?_own (distinct : (tables.map Table.name).Nodup)
    (here : tables[position]? = some table) {key : ForeignKey} (own : key.table = table.name) :
    refusal? tables key = table.ownRefusal? key := by
  simp only [refusal?, resolveForeignKey, own, findTable?_own distinct here, Option.bind_some, here,
    Option.map_some, Table.ownRefusal?]
  cases known : table.position? key.column with
  | none => rfl
  | some place =>
    have bound := Table.position?_lt known
    simp [bound]

end

/-! A definition with one more constraint. -/

section

variable (ids : IdCounter) (dialect : Dialect) (definition : CreateTable) {element : Element}
  {constraint : Option String × Constraint}

theorem constrained_append (declares : constraintsOf element = [constraint]) :
    constrained ids dialect (listing definition (definition.entries ++ [element])) =
      (constrained ids dialect definition).apply constraint.1 constraint.2 := by
  have parts : columnParts? element = none :=
    columnParts?_constraint (declares ▸ List.mem_singleton_self _)
  -- the columns are the same, and the constraint is the last to be applied
  have start : startTable (tableName definition) dialect (definition.entries ++ [element]) ids =
      startTable (tableName definition) dialect definition.entries ids :=
    startTable_congr (by simp [parts]) _ _ _
  simp only [constrained, entries_listing, tableName_listing, start, List.foldl_append,
    List.foldl_cons, List.foldl_nil, Defining.applyElement_eq_foldl, declares]

theorem definedTable_append (keyed : declaresKey definition = true)
    (declares : constraintsOf element = [constraint]) (beside : keyColumns? constraint.2 = none) :
    let defined := definedTable ids dialect definition
    let extended := definedTable ids dialect (listing definition (definition.entries ++ [element]))
    let keys := constraintKeys (tableName definition) constraint
    extended.table.bare = (constraintChanges constraint).foldl Change.applyBare defined.table.bare ∧
      extended.foreignKeys = defined.foreignKeys ++ keys.filterMap defined.table.ownKey? ∧
      extended.warnings = defined.warnings ++ keys.filterMap defined.table.ownRefusal? := by
  intro defined extended keys
  have explicit := (hasExplicitKey_constrained ids dialect definition).trans keyed
  have appended := (constrained_append ids dialect definition declares).trans (Defining.apply_eq _ _)
  have before : defined = _ := definedTable_keyed ids dialect definition explicit
  have after : extended = _ := definedTable_keyed ids dialect _ (by
    rw [appended, Defining.after, explicit, Bool.true_or])
  have name := name_constrained ids dialect definition
  have outline := (constrained ids dialect definition).table.outline_decorate definition.properties
  rw [before, after, appended]
  simp only [Defining.after, Table.bare_decorate, Change.bare_applyAll, properties_listing,
    Change.foldl_applyBare_decorate, Table.ownKey?_congr outline, Table.ownRefusal?_congr outline, name,
    constraintWarnings, beside, Option.elim_none, List.map_nil, List.nil_append]
  exact ⟨trivial, rfl, rfl⟩

end

/-- Two results with the same schema: the same tables up to the numbers of their indexes, the same
foreign keys in any order, and the same set of warnings. -/
structure SameSchema (first second : ParseResult) : Prop where
  tables : Renumbered first.tables second.tables
  foreignKeys : first.foreignKeys.Perm second.foreignKeys
  warnings : ∀ message, message ∈ first.warnings ↔ message ∈ second.warnings
  errors : first.errors = second.errors
  dialect : first.dialect = second.dialect

theorem missingTargets_perm (tables : List Table) {keys others : List ForeignKey}
    (same : keys.Perm others) : (missingTargets tables keys).Perm (missingTargets tables others) :=
  same.filterMap _

/-! Both ways at once: `defined` is the table without the constraint and `extended` the one with it,
between the tables of the other definitions. -/

section

variable {earlier later others : List DefinedTable} {defined extended : DefinedTable}
  {constraint : Option String × Constraint}
  (distinct : ((earlier ++ defined :: later).map fun made => made.table.name).Nodup)
  (same : later.map DefinedTable.bare = others.map DefinedTable.bare)

theorem here_defined : ((earlier ++ defined :: later).map DefinedTable.table)[earlier.length]? =
    some defined.table := by
  simp

include distinct same

theorem tables_altered (beside : keyColumns? constraint.2 = none)
    (table : extended.table.bare =
      (constraintChanges constraint).foldl Change.applyBare defined.table.bare) (ids : IdCounter) :
    (mergedTables ((earlier ++ defined :: later).map DefinedTable.table)
        (altering defined.table.name constraint) ids).1.map Table.bare =
      ((earlier ++ extended :: others).map DefinedTable.table).map Table.bare := by
  have tails : later.map (fun made => made.table.bare) = others.map fun made => made.table.bare := by
    simpa [Function.comp_def, DefinedTable.bare] using congrArg (List.map DefinedTable.table) same
  have own := foldl_changeNamed_own ids (by simpa [Function.comp_def] using distinct) here_defined
    (constraintChanges constraint)
  simp only [mergedTables, changes_altering _ _ beside, own]
  simp [Change.bare_applyAll, table, tails, Function.comp_def]

theorem keys_altered (keys : extended.foreignKeys = defined.foreignKeys ++
      (constraintKeys defined.table.name constraint).filterMap defined.table.ownKey?) :
    (mergedKeys ((earlier ++ defined :: later).map DefinedTable.table)
        ((earlier ++ defined :: later).flatMap DefinedTable.foreignKeys)
        (altering defined.table.name constraint)).Perm
      ((earlier ++ extended :: others).flatMap DefinedTable.foreignKeys) := by
  have tails : later.flatMap DefinedTable.foreignKeys = others.flatMap DefinedTable.foreignKeys := by
    simpa [List.flatMap_map, DefinedTable.bare] using
      congrArg (List.flatMap DefinedTable.foreignKeys) same
  have accepted : (constraintKeys defined.table.name constraint).filterMap
        (acceptedKey? ((earlier ++ defined :: later).map DefinedTable.table)) =
      (constraintKeys defined.table.name constraint).filterMap defined.table.ownKey? :=
    List.filterMap_congr fun key member => acceptedKey?_own
      (by simpa [Function.comp_def] using distinct) here_defined (table_constraintKeys member)
  rw [mergedKeys, foreignKeys_altering, accepted]
  simp only [List.flatMap_append, List.flatMap_cons, keys, tails, List.append_assoc]
  -- the new keys go in front of those of the later definitions
  exact (List.perm_append_comm.append_left _).append_left _

theorem warnings_altered (warnings : extended.warnings = defined.warnings ++
      (constraintKeys defined.table.name constraint).filterMap defined.table.ownRefusal?) :
    let tables := (earlier ++ defined :: later).map DefinedTable.table
    let alter := altering defined.table.name constraint
    ((earlier ++ defined :: later).flatMap DefinedTable.warnings ++
        (alter.amendments.flatMap (Amendment.warnings tables) ++
          alter.foreignKeys.filterMap (refusal? tables))).Perm
      ((earlier ++ extended :: others).flatMap DefinedTable.warnings) := by
  intro tables alter
  have names : (tables.map Table.name).Nodup := by simpa [tables, Function.comp_def] using distinct
  have tails : later.flatMap DefinedTable.warnings = others.flatMap DefinedTable.warnings := by
    simpa [List.flatMap_map, DefinedTable.bare] using
      congrArg (List.flatMap DefinedTable.warnings) same
  -- the table is there and no clause but a primary key requires columns
  have silent : alter.amendments.flatMap (Amendment.warnings tables) = [] := by
    refine List.flatMap_eq_nil_iff.mpr fun amendment member => ?_
    obtain ⟨table, required⟩ := mem_amendments_altering _ _ member
    simp only [Amendment.warnings, table, required, findTable?_own names here_defined, Option.bind_some]
    simp [tables, Table.missing]
  have refused : alter.foreignKeys.filterMap (refusal? tables) =
      (constraintKeys defined.table.name constraint).filterMap defined.table.ownRefusal? := by
    rw [foreignKeys_altering]
    exact List.filterMap_congr fun key member =>
      refusal?_own names here_defined (table_constraintKeys member)
  rw [silent, refused]
  simp only [List.flatMap_append, List.flatMap_cons, warnings, tails, List.nil_append, List.append_assoc]
  exact (List.perm_append_comm.append_left _).append_left _

theorem sameSchema_altered (beside : keyColumns? constraint.2 = none)
    (table : extended.table.bare =
      (constraintChanges constraint).foldl Change.applyBare defined.table.bare)
    (keys : extended.foreignKeys = defined.foreignKeys ++
      (constraintKeys defined.table.name constraint).filterMap defined.table.ownKey?)
    (warnings : extended.warnings = defined.warnings ++
      (constraintKeys defined.table.name constraint).filterMap defined.table.ownRefusal?)
    (ids left : IdCounter) (noted : List Warning) (errors : List String) (dialect : Option Dialect) :
    let altered := merge ((earlier ++ defined :: later).map DefinedTable.table)
      ((earlier ++ defined :: later).flatMap DefinedTable.foreignKeys)
      (altering defined.table.name constraint) ids
    let direct := merge ((earlier ++ extended :: others).map DefinedTable.table)
      ((earlier ++ extended :: others).flatMap DefinedTable.foreignKeys) {} left
    (altered.tables.flatMap Table.indexIds).Nodup → (direct.tables.flatMap Table.indexIds).Nodup →
    SameSchema
      ⟨altered.tables, altered.foreignKeys, errors, messages (noted ++
        (earlier ++ defined :: later).flatMap DefinedTable.warnings ++ altered.warnings), dialect⟩
      ⟨direct.tables, direct.foreignKeys, errors, messages (noted ++
        (earlier ++ extended :: others).flatMap DefinedTable.warnings ++ direct.warnings), dialect⟩ := by
  intro altered direct first second
  have bare := tables_altered distinct same beside table ids
  have listed := keys_altered distinct same keys
  have refused := warnings_altered distinct same warnings
  simp only [altered, merge_eq] at first ⊢
  refine ⟨renumbered_of_bare bare first second, ?_, fun message => ?_, rfl, rfl⟩
  · rw [withCardinality_congr bare]
    exact listed.map _
  · have before := names_of_outlines (outlines_mergedTables
      ((earlier ++ defined :: later).map DefinedTable.table)
      (altering defined.table.name constraint) ids)
    have dangling := missingTargets_perm ((earlier ++ defined :: later).map DefinedTable.table) listed
    conv at dangling =>
      rhs
      rw [missingTargets_congr (before.symm.trans (names_of_bare bare))]
    have all := (refused.append dangling).append_left noted
    simp only [← List.append_assoc] at all ⊢
    rw [mem_messages, mem_messages]
    exact (all.map Warning.message).mem_iff

end

/-- A constraint of a table that has a key of its own can stand in its definition or be altered in. The entries
of an altered foreign key are those that are read from a clause that says the same. -/
theorem constraint_placement (selection : Selection) (before after : List (Dialect × CreateTable))
    (dialect : Dialect) (definition : CreateTable) {element : Element}
    {constraint : Option String × Constraint}
    (distinct : (tableNames (before ++ (dialect, definition) :: after)).Nodup)
    (named : (tableName definition).isEmpty = false) (keyed : declaresKey definition = true)
    (declares : constraintsOf element = [constraint]) (beside : keyColumns? constraint.2 = none) :
    SameSchema
      (assemble { selection with definitions := before ++ (dialect, definition) :: after }
        (altering (tableName definition) constraint)).result
      (assemble { selection with definitions := before ++
        (dialect, listing definition (definition.entries ++ [element])) :: after } {}).result ∧
    ∀ name columns reference onDelete onUpdate,
      constraint = (name, .foreignKey columns (some reference) onDelete onUpdate) →
      ∀ found, SaysSame found name columns reference (declaredActions reference onDelete onUpdate) →
        readForeignKey (tableName definition) found =
          .ok (altering (tableName definition) constraint).foreignKeys := by
  refine ⟨?_, fun name columns reference onDelete onUpdate same found read => by
    rw [same]
    exact read.readForeignKey_eq _⟩
  have names : (tableNames (before ++
      (dialect, listing definition (definition.entries ++ [element])) :: after)).Nodup := by
    simpa [tableNames] using distinct
  obtain ⟨made, failed⟩ := defineTables_placed before after dialect definition named
  obtain ⟨made', failed'⟩ := defineTables_placed before after dialect
    (listing definition (definition.entries ++ [element])) named
  have unique := distinct
  rw [← names_defineTables .start, made] at unique
  rw [assemble_distinct _ _ distinct made (by simp), assemble_distinct _ _ names made' (by simp)]
  -- a constraint draws no ids for columns, so the later definitions differ in their indexes alone
  have left : (constrained (defineTables .start before).2 dialect definition).ids.count "col" =
      (constrained (defineTables .start before).2 dialect
        (listing definition (definition.entries ++ [element]))).ids.count "col" := by
    rw [constrained_append _ _ _ declares, Defining.apply_eq]
    exact (Change.count_applyAll _ _ _ (by decide)).symm
  have tails := bare_defineTables left after
  have same := congrArg successes tails
  have errors := congrArg failures tails
  rw [successes_map, successes_map] at same
  rw [failures_map, failures_map] at errors
  obtain ⟨table, keys, warnings⟩ := definedTable_append (defineTables .start before).2 dialect
    definition keyed declares beside
  rw [← name_definedTable (defineTables .start before).2 dialect definition] at keys warnings ⊢
  simp only [failed, failed', errors]
  exact sameSchema_altered unique same beside table keys warnings _ _ _ _ _
    (nodup_indexIds_merge _ _ _ made) (nodup_indexIds_merge _ _ _ made')

theorem constraint_placement_link :
    let keyed : List ColumnConstraint := [⟨none, .primaryKey none⟩]
    let definition : CreateTable :=
      ⟨"t", some [.column ⟨⟨"a", false⟩, none, keyed⟩, .column ⟨⟨"b", false⟩, none, []⟩], []⟩
    let reference : Reference := ⟨"u", ["x", "y"], ["ON DELETE set null", "on update CASCADE", "MATCH FULL"]⟩
    let constraint : Option String × Constraint :=
      (some "link", .foreignKey ["A", "c", "b"] (some reference) none none)
    let element := Element.namedConstraint constraint.1 [constraint.2]
    let selection : Selection := ⟨[], [(.sqlite, definition)], some .sqlite, [], []⟩
    let clause := "ADD CONSTRAINT link FOREIGN KEY (A, c, b) REFERENCES u (x, y) ON UPDATE cascade ON DELETE Set Null"
    SameSchema (assemble selection (altering (tableName definition) constraint)).result
      (assemble { selection with definitions :=
        [(.sqlite, listing definition (definition.entries ++ [element]))] } {}).result ∧
    (altering (tableName definition) constraint).foreignKeys.map ForeignKey.target =
      [⟨"u", "x"⟩, ⟨"u", "y"⟩, ⟨"u", "x"⟩] ∧
    ∃ found rest, Clause.foreignKey.search clause.toList = some (found, rest) ∧
      readForeignKey (tableName definition) found =
        .ok (altering (tableName definition) constraint).foreignKeys := by
  intro keyed definition reference constraint element selection clause
  obtain ⟨same, entries⟩ := @constraint_placement selection [] [] .sqlite definition element constraint
    (by decide +kernel) (by decide +kernel) (by decide +kernel) rfl rfl
  refine ⟨same, by decide +kernel, ?_⟩
  have matched : (Clause.foreignKey.search clause.toList).map (fun match_ =>
      ["name", "columns", "table", "targets", "actions"].map match_.1.get?) =
      some [some "link".toList, some "A, c, b".toList, some "u".toList, some "x, y".toList,
        some " ON UPDATE cascade ON DELETE Set Null".toList] := by
    decide +kernel
  obtain ⟨⟨found, rest⟩, searched, parts⟩ := Option.map_eq_some_iff.mp matched
  simp only [List.map_cons, List.map_nil, List.cons.injEq, and_true] at parts
  obtain ⟨name, columns, table, targets, actions⟩ := parts
  refine ⟨found, rest, searched, entries _ _ _ _ _ rfl found ⟨?_, ?_, ?_, ?_, ?_⟩⟩
  · rw [name]
    decide +kernel
  · rw [Match.columns, columns]
    decide +kernel
  · rw [table]
    decide +kernel
  · rw [targets]
    decide +kernel
  · rw [actions]
    rfl

end DdlSchema.Schema
