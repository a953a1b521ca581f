import DdlSchema.Proofs.Schema.Defining
import DdlSchema.Proofs.Schema.Merging
import DdlSchema.Schema.Parse

/-! What the tables and foreign keys of a result are: those of a merge of collected definitions, or
none at all. -/

set_option autoImplicit false

namespace DdlSchema.Schema

open DdlSchema.Ddl DdlSchema.Statement

/-- The tables of the definitions with the altered constraints. -/
def schemaOf (definitions : List (Dialect × CreateTable)) (alter : AlterConstraints) : Merged :=
  let (outcomes, ids) := defineTables .start definitions
  merge (collect outcomes).tables (collect outcomes).foreignKeys alter ids

theorem dialect_assemble (selection : Selection) (alter : AlterConstraints) :
    (assemble selection alter).result.dialect = selection.dialect := by
  simp only [assemble]
  split <;> rfl

/-- What holds of nothing and of every schema of definitions holds of what is assembled. -/
theorem assemble_holds (holds : List Table → List ForeignKey → Prop) (nothing : holds [] [])
    {alter : AlterConstraints}
    (schema : ∀ definitions, holds (schemaOf definitions alter).tables
      (schemaOf definitions alter).foreignKeys)
    (selection : Selection) :
    holds (assemble selection alter).result.tables (assemble selection alter).result.foreignKeys := by
  simp only [assemble]
  split
  · exact nothing
  · exact schema selection.definitions

theorem parsePrepared_holds (holds : List Table → List ForeignKey → Prop) (nothing : holds [] [])
    {alter : AlterConstraints}
    (schema : ∀ definitions, holds (schemaOf definitions alter).tables
      (schemaOf definitions alter).foreignKeys)
    (read : TableReader) (options : ParseOptions) (prepared : Prepared) :
    holds (parsePrepared read options prepared alter).2.2.tables
      (parsePrepared read options prepared alter).2.2.foreignKeys := by
  simp only [parsePrepared]
  split
  · exact nothing
  · split
    · exact assemble_holds holds nothing schema _
    · exact nothing

theorem stages_parseWith {cut : Splitter} {read : TableReader} {options : ParseOptions}
    {script : List Char} {run : ParseRun} (parsed : parseWith cut read options script = .ok run) :
    readAlterations (statementsBy cut script) = .ok run.readings ∧
      prepareAll (statementsBy cut script) = some run.prepared ∧
      parsePrepared read options run.prepared (.ofReadings run.readings) =
        (run.selection, run.assembly, run.result) := by
  unfold parseWith at parsed
  simp only at parsed
  split at parsed
  · cases parsed
  · cases parsed
  · next readings prepared outcome ready =>
    cases parsed
    exact ⟨outcome, ready, rfl⟩

theorem parseWith_eq_ok {cut : Splitter} {read : TableReader} {options : ParseOptions}
    {script : List Char} {run : ParseRun} (parsed : parseWith cut read options script = .ok run) :
    run.result =
      (parsePrepared read options run.prepared (.ofReadings run.readings)).2.2 := by
  rw [(stages_parseWith parsed).2.2]

theorem readings_parseWith {cut : Splitter} {read : TableReader} {options : ParseOptions}
    {script : List Char} {run : ParseRun} (parsed : parseWith cut read options script = .ok run) :
    readAlterations (statementsBy cut script) = .ok run.readings :=
  (stages_parseWith parsed).1

/-! Where the collected tables come from. -/

theorem defineTables_cons (ids : IdCounter) (dialect : Dialect) (definition : CreateTable)
    (rest : List (Dialect × CreateTable)) :
    defineTables ids ((dialect, definition) :: rest) =
      if (tableName definition).isEmpty then
        (.error {} :: (defineTables ids rest).1, (defineTables ids rest).2)
      else
        let later := defineTables (constrained ids dialect definition).ids rest
        (.ok (definedTable ids dialect definition) :: later.1, later.2) := by
  rw [defineTables, defineTable_eq]
  by_cases nameless : (tableName definition).isEmpty <;> simp [nameless]

theorem mem_defineTables {ids : IdCounter} {definitions : List (Dialect × CreateTable)}
    {defined : DefinedTable} (member : .ok defined ∈ (defineTables ids definitions).1) :
    ∃ ids dialect definition, defined = definedTable ids dialect definition := by
  induction definitions generalizing ids with
  | nil => cases member
  | cons first rest ih =>
    obtain ⟨dialect, definition⟩ := first
    rw [defineTables_cons] at member
    split at member
    · simp only [List.mem_cons, reduceCtorEq, false_or] at member
      exact ih member
    · simp only [List.mem_cons, Except.ok.injEq] at member
      rcases member with rfl | member
      · exact ⟨ids, dialect, definition, rfl⟩
      · exact ih member

/-- What holds at first and is kept by every definition holds of all that is collected. -/
theorem collect_holds (holds : Collected → Prop) (nothing : holds {})
    (outcomes : List (Except NamelessTable DefinedTable))
    (kept : ∀ state, holds state → ∀ outcome ∈ outcomes, holds (state.add outcome)) :
    holds (collect outcomes) :=
  List.foldlRecOn outcomes Collected.add nothing kept

theorem mem_tables_add {state : Collected} {outcome : Except NamelessTable DefinedTable}
    {table : Table} (member : table ∈ (state.add outcome).tables) :
    table ∈ state.tables ∨ ∃ defined, outcome = .ok defined ∧ table = defined.table := by
  cases outcome with
  | error problem => exact Or.inl member
  | ok defined =>
    simp only [Collected.add] at member
    split at member
    · rcases List.mem_or_eq_of_mem_set member with old | rfl
      · exact Or.inl old
      · exact Or.inr ⟨defined, rfl, rfl⟩
    · simp only [List.mem_append, List.mem_singleton] at member
      rcases member with old | rfl
      · exact Or.inl old
      · exact Or.inr ⟨defined, rfl, rfl⟩

theorem mem_collect {outcomes : List (Except NamelessTable DefinedTable)} {table : Table}
    (member : table ∈ (collect outcomes).tables) :
    ∃ defined, .ok defined ∈ outcomes ∧ table = defined.table := by
  revert table
  refine collect_holds (fun state => ∀ {table}, table ∈ state.tables →
    ∃ defined, .ok defined ∈ outcomes ∧ table = defined.table) ?_ outcomes ?_
  · exact fun member => absurd member List.not_mem_nil
  · intro state earlier outcome inside table member
    rcases mem_tables_add member with old | ⟨defined, rfl, rfl⟩
    · exact earlier old
    · exact ⟨defined, inside, rfl⟩

/-! Tables of distinct names are collected as they come. -/

def successes (outcomes : List (Except NamelessTable DefinedTable)) : List DefinedTable :=
  outcomes.filterMap Except.toOption

def failures (outcomes : List (Except NamelessTable DefinedTable)) : List NamelessTable :=
  outcomes.filterMap fun outcome => match outcome with
    | .error problem => some problem
    | .ok _ => none

@[simp] theorem successes_nil : successes [] = [] := rfl

@[simp] theorem successes_error (problem : NamelessTable)
    (rest : List (Except NamelessTable DefinedTable)) :
    successes (.error problem :: rest) = successes rest :=
  rfl

@[simp] theorem successes_ok (defined : DefinedTable)
    (rest : List (Except NamelessTable DefinedTable)) :
    successes (.ok defined :: rest) = defined :: successes rest :=
  rfl

theorem successes_map (change : DefinedTable → DefinedTable)
    (outcomes : List (Except NamelessTable DefinedTable)) :
    successes (outcomes.map (Except.map change)) = (successes outcomes).map change := by
  induction outcomes with
  | nil => rfl
  | cons outcome rest ih => cases outcome <;> simp [Except.map, ih]

theorem failures_map (change : DefinedTable → DefinedTable)
    (outcomes : List (Except NamelessTable DefinedTable)) :
    failures (outcomes.map (Except.map change)) = failures outcomes := by
  simp only [failures, List.filterMap_map]
  congr 1
  funext outcome
  cases outcome <;> rfl

/-- What the outcomes add to a state, none of whose tables they replace. -/
def Collected.with (state : Collected) (outcomes : List (Except NamelessTable DefinedTable)) :
    Collected :=
  { tables := state.tables ++ (successes outcomes).map DefinedTable.table
    foreignKeys := state.foreignKeys ++ (successes outcomes).flatMap DefinedTable.foreignKeys
    warnings := state.warnings ++ (successes outcomes).flatMap DefinedTable.warnings
    errors := state.errors ++ failures outcomes }

theorem Collected.with_cons (state : Collected) (outcome : Except NamelessTable DefinedTable)
    (rest : List (Except NamelessTable DefinedTable)) :
    (state.with [outcome]).with rest = state.with (outcome :: rest) := by
  cases outcome <;> simp [Collected.with, failures]

theorem Collected.add_eq_with (state : Collected) (outcome : Except NamelessTable DefinedTable)
    (distinct : ((state.with [outcome]).tables.map Table.name).Nodup) :
    state.add outcome = state.with [outcome] := by
  cases outcome with
  | error problem => simp [Collected.add, Collected.with, failures]
  | ok defined =>
    have fresh : state.tables.findIdx? (fun table => table.name == defined.table.name) = none := by
      simp only [Collected.with, successes_ok, List.map_append, List.nodup_append] at distinct
      rw [List.findIdx?_eq_none_iff]
      intro table member
      have apart := distinct.2.2 table.name (List.mem_map_of_mem member) defined.table.name (by simp)
      simpa using apart
    simp [Collected.add, Collected.with, fresh, failures]

theorem foldl_add (state : Collected) (outcomes : List (Except NamelessTable DefinedTable))
    (distinct : ((state.with outcomes).tables.map Table.name).Nodup) :
    outcomes.foldl Collected.add state = state.with outcomes := by
  induction outcomes generalizing state with
  | nil => simp [Collected.with, failures]
  | cons outcome rest ih =>
    rw [← state.with_cons] at distinct ⊢
    have first : ((state.with [outcome]).tables.map Table.name).Nodup := by
      simp only [Collected.with, List.map_append] at distinct ⊢
      exact (List.nodup_append.mp distinct).1
    rw [List.foldl_cons, state.add_eq_with outcome first, ih _ distinct]

theorem collect_distinct (outcomes : List (Except NamelessTable DefinedTable))
    (distinct : ((successes outcomes).map fun defined => defined.table.name).Nodup) :
    collect outcomes = ({} : Collected).with outcomes :=
  foldl_add {} outcomes (by simpa [Collected.with, Function.comp_def] using distinct)

/-- The names that definitions give to their tables. -/
def tableNames (definitions : List (Dialect × CreateTable)) : List String :=
  (definitions.map fun entry => tableName entry.2).filter fun name => !name.isEmpty

theorem names_defineTables (ids : IdCounter) (definitions : List (Dialect × CreateTable)) :
    ((successes (defineTables ids definitions).1).map fun defined => defined.table.name) =
      tableNames definitions := by
  induction definitions generalizing ids with
  | nil => rfl
  | cons first rest ih =>
    obtain ⟨dialect, definition⟩ := first
    rw [defineTables_cons]
    by_cases nameless : (tableName definition).isEmpty
    · simpa [tableNames, nameless] using ih ids
    · simpa [tableNames, nameless, name_definedTable] using
        ih (constrained ids dialect definition).ids

theorem defineTables_append (ids : IdCounter) (before after : List (Dialect × CreateTable)) :
    defineTables ids (before ++ after) =
      ((defineTables ids before).1 ++ (defineTables (defineTables ids before).2 after).1,
        (defineTables (defineTables ids before).2 after).2) := by
  induction before generalizing ids with
  | nil => rfl
  | cons first rest ih =>
    obtain ⟨dialect, definition⟩ := first
    rw [List.cons_append, defineTables_cons, defineTables_cons]
    split
    · simp only [ih, List.cons_append]
    · simp only [ih, List.cons_append]

/-- Definitions of distinct names, one of which is not empty, are merged as they come. -/
theorem assemble_distinct (selection : Selection) (alter : AlterConstraints)
    (distinct : (tableNames selection.definitions).Nodup)
    {made : List DefinedTable} (defined : successes (defineTables .start selection.definitions).1 = made)
    (nonempty : made ≠ []) :
    let merged := merge (made.map DefinedTable.table) (made.flatMap DefinedTable.foreignKeys) alter
      (defineTables .start selection.definitions).2
    (assemble selection alter).result =
      { tables := merged.tables
        foreignKeys := merged.foreignKeys
        errors := (failures (defineTables .start selection.definitions).1).map definitionError
        warnings := messages (selection.warnings ++ made.flatMap DefinedTable.warnings ++ merged.warnings)
        dialect := selection.dialect } := by
  intro merged
  rw [← names_defineTables .start] at distinct
  have collected := collect_distinct _ distinct
  simp only [assemble, collected, Collected.with, defined, List.nil_append, List.isEmpty_map,
    List.isEmpty_eq_false_iff.mpr nonempty, Bool.false_and, Bool.false_eq_true, if_false]
  rfl

/-- What comes of definitions around one that has a name. -/
theorem defineTables_placed (before after : List (Dialect × CreateTable)) (dialect : Dialect)
    (definition : CreateTable) (named : (tableName definition).isEmpty = false) :
    let ids := (defineTables .start before).2
    let later := (defineTables (constrained ids dialect definition).ids after).1
    successes (defineTables .start (before ++ (dialect, definition) :: after)).1 =
      successes (defineTables .start before).1 ++ definedTable ids dialect definition ::
        successes later ∧
    failures (defineTables .start (before ++ (dialect, definition) :: after)).1 =
      failures (defineTables .start before).1 ++ failures later := by
  rw [defineTables_append, defineTables_cons, named]
  simp only [Bool.false_eq_true, if_false]
  exact ⟨List.filterMap_append, List.filterMap_append⟩

theorem mem_messages (warnings : List Warning) (message : String) :
    message ∈ messages warnings ↔ message ∈ warnings.map Warning.message := by
  -- the messages seen so far stay, and a message that is left out is among them
  have collected : ∀ seen : List String, message ∈ (warnings.map Warning.message).foldl
      (fun seen message => if seen.contains message then seen else seen ++ [message]) seen ↔
        message ∈ seen ∨ message ∈ warnings.map Warning.message := by
    induction warnings with
    | nil => simp
    | cons warning rest ih =>
      intro seen
      rw [List.map_cons, List.foldl_cons, ih, List.mem_cons]
      split
      · next present =>
        have inside : warning.message ∈ seen := by simpa using present
        constructor
        · rintro (old | later)
          · exact Or.inl old
          · exact Or.inr (Or.inr later)
        · rintro (old | rfl | later)
          · exact Or.inl old
          · exact Or.inl inside
          · exact Or.inr later
      · simp [or_assoc]
  simpa [messages] using collected []

end DdlSchema.Schema
