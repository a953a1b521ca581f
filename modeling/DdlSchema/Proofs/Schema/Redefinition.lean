import Mathlib.Data.List.Induction
import DdlSchema.Proofs.Schema.ForeignKeys

/-! Tables that are defined more than once. The place of a table is that of its first definition, and all
else of it comes from the last one: its columns and indexes, and the foreign keys that are kept. -/

set_option autoImplicit false

namespace DdlSchema.Schema

open DdlSchema.Ddl

def latest? (made : List DefinedTable) (name : String) : Option DefinedTable :=
  made.reverse.find? fun defined => defined.table.name == name

/-- The definitions that no later one replaces, in order. -/
def surviving : List DefinedTable → List DefinedTable
  | [] => []
  | defined :: later =>
    if later.any fun other => other.table.name == defined.table.name then surviving later
    else defined :: surviving later

def isRepeat : Warning → Bool
  | .duplicateTable _ => true
  | _ => false

/-- What is collected from these definitions. -/
structure Collected.Holds (state : Collected) (made : List DefinedTable) : Prop where
  distinct : (state.tables.map Table.name).Nodup
  names : state.tables.map Table.name = (made.map fun defined => defined.table.name).eraseDups
  latest : ∀ table ∈ state.tables, ∃ defined, latest? made table.name = some defined ∧
    table = defined.table
  foreignKeys : state.foreignKeys = (surviving made).flatMap DefinedTable.foreignKeys
  /-- Each definition of a name but the first is reported once. -/
  repeats : ∀ name, state.warnings.count (.duplicateTable name) =
    made.countP (fun defined => defined.table.name == name) - 1
  others : state.warnings.filter (fun warning => !isRepeat warning) = made.flatMap DefinedTable.warnings

/-! One definition more. -/

section

variable (earlier : List DefinedTable) (defined : DefinedTable)

theorem latest?_concat (name : String) : latest? (earlier ++ [defined]) name =
    if defined.table.name = name then some defined else latest? earlier name := by
  by_cases same : defined.table.name = name <;> simp [latest?, same]

theorem surviving_concat : surviving (earlier ++ [defined]) =
    (surviving earlier).filter (fun other => other.table.name != defined.table.name) ++ [defined] := by
  induction earlier with
  | nil => rfl
  | cons first rest ih =>
    rw [List.cons_append, surviving, surviving, List.any_append, ih]
    by_cases again : rest.any fun other => other.table.name == first.table.name
    · simp [again]
    · by_cases same : defined.table.name = first.table.name
      · simp [again, same]
      · simp [again, same, Ne.symm same]

theorem names_concat (names : List String) (name : String) : (names ++ [name]).eraseDups =
    if name ∈ names then names.eraseDups else names.eraseDups ++ [name] := by
  rw [List.eraseDups_append]
  by_cases old : name ∈ names <;> simp [List.removeAll, old, List.eraseDups_cons]

end

theorem surviving_subset {made : List DefinedTable} {defined : DefinedTable}
    (member : defined ∈ surviving made) : defined ∈ made := by
  induction made with
  | nil => exact member
  | cons first rest ih =>
    rw [surviving] at member
    split at member
    · exact List.mem_cons_of_mem _ (ih member)
    · rcases List.mem_cons.mp member with rfl | later
      · exact List.mem_cons_self
      · exact List.mem_cons_of_mem _ (ih later)

/-- Keys that all belong to the tables they came with are dropped with these tables. -/
theorem filter_foreignKeys {made : List DefinedTable}
    (own : ∀ defined ∈ made, ∀ key ∈ defined.foreignKeys, key.table = defined.table.name)
    (name : String) :
    (made.flatMap DefinedTable.foreignKeys).filter (fun key => key.table != name) =
      (made.filter fun defined => defined.table.name != name).flatMap DefinedTable.foreignKeys := by
  induction made with
  | nil => rfl
  | cons first rest ih =>
    obtain ⟨here, later⟩ := List.forall_mem_cons.mp own
    rw [List.flatMap_cons, List.filter_append, ih later]
    by_cases same : first.table.name = name
    · have dropped : first.foreignKeys.filter (fun key => key.table != name) = [] := by
        simpa using fun key member => (here key member).trans same
      simp [same, dropped]
    · have kept : first.foreignKeys.filter (fun key => key.table != name) = first.foreignKeys := by
        simpa using fun key member equal => same ((here key member).symm.trans equal)
      simp [same, kept]

section

variable {state : Collected} {made : List DefinedTable} {defined : DefinedTable}

theorem Collected.Holds.mem_names (holds : state.Holds made) {name : String} :
    name ∈ state.tables.map Table.name ↔ name ∈ made.map fun defined => defined.table.name := by
  rw [holds.names, List.mem_eraseDups]

theorem Collected.Holds.foreignKeys_concat (holds : state.Holds made)
    (own : ∀ other ∈ made, ∀ key ∈ other.foreignKeys, key.table = other.table.name) :
    state.foreignKeys.filter (fun key => key.table != defined.table.name) ++ defined.foreignKeys =
      (surviving (made ++ [defined])).flatMap DefinedTable.foreignKeys := by
  rw [holds.foreignKeys, surviving_concat, List.flatMap_append,
    filter_foreignKeys fun other member => own other (surviving_subset member)]
  simp

theorem count_repeats_eq_zero (quiet : ∀ warning ∈ defined.warnings, isRepeat warning = false)
    (name : String) : defined.warnings.count (.duplicateTable name) = 0 :=
  List.count_eq_zero.mpr fun member => Bool.noConfusion (quiet _ member)

theorem filter_others (quiet : ∀ warning ∈ defined.warnings, isRepeat warning = false) :
    defined.warnings.filter (fun warning => !isRepeat warning) = defined.warnings := by
  simpa using quiet

theorem Collected.Holds.replace (holds : state.Holds made)
    (own : ∀ other ∈ made, ∀ key ∈ other.foreignKeys, key.table = other.table.name)
    (quiet : ∀ warning ∈ defined.warnings, isRepeat warning = false) {position : Nat}
    (found : state.tables.findIdx? (fun table => table.name == defined.table.name) = some position) :
    Collected.Holds
      { state with
        tables := state.tables.set position defined.table
        foreignKeys := state.foreignKeys.filter (fun key => key.table != defined.table.name) ++
          defined.foreignKeys
        warnings := state.warnings ++ .duplicateTable defined.table.name :: defined.warnings }
      (made ++ [defined]) := by
  obtain ⟨bound, same, -⟩ := List.findIdx?_eq_some_iff_getElem.mp found
  have here := List.getElem?_eq_getElem bound
  have name : defined.table.name = state.tables[position].name := (beq_iff_eq.mp same).symm
  have old : defined.table.name ∈ made.map fun defined => defined.table.name :=
    holds.mem_names.mp (name ▸ List.mem_map_of_mem (List.getElem_mem bound))
  have names : (state.tables.set position defined.table).map Table.name =
      state.tables.map Table.name := map_set_eq Table.name here name
  refine
    { distinct := names ▸ holds.distinct
      names := ?_
      latest := fun table member => ?_
      foreignKeys := holds.foreignKeys_concat own
      repeats := fun other => ?_
      others := ?_ }
  · rw [names, holds.names, List.map_append, List.map_singleton, names_concat, if_pos old]
  · obtain ⟨place, there⟩ := List.mem_iff_getElem?.mp member
    rw [latest?_concat]
    by_cases own : position = place
    · subst own
      rw [List.getElem?_set_self bound, Option.some.injEq] at there
      exact ⟨defined, by rw [← there, if_pos rfl], there.symm⟩
    · rw [List.getElem?_set_ne own] at there
      have apart : defined.table.name ≠ table.name :=
        name ▸ ne_of_nodup_map Table.name holds.distinct here there own
      rw [if_neg apart]
      exact holds.latest table (List.mem_of_getElem? there)
  · -- the name has a definition already, so none is taken off one too many
    have counted : 0 < made.countP fun other => other.table.name == defined.table.name := by
      obtain ⟨other, member, equal⟩ := List.mem_map.mp old
      exact List.countP_pos_iff.mpr ⟨other, member, beq_iff_eq.mpr equal⟩
    have first := holds.repeats other
    rw [List.count_append, List.count_cons, count_repeats_eq_zero quiet, List.countP_append, first]
    by_cases equal : defined.table.name = other
    · rw [equal] at counted
      simp [equal]
      omega
    · simp [equal]
  · rw [List.filter_append, List.filter_cons_of_neg (by simp [isRepeat]), filter_others quiet,
      holds.others]
    simp

theorem Collected.Holds.append (holds : state.Holds made)
    (own : ∀ other ∈ made, ∀ key ∈ other.foreignKeys, key.table = other.table.name)
    (quiet : ∀ warning ∈ defined.warnings, isRepeat warning = false)
    (fresh : defined.table.name ∉ state.tables.map Table.name) :
    Collected.Holds
      { state with
        tables := state.tables ++ [defined.table]
        foreignKeys := state.foreignKeys ++ defined.foreignKeys
        warnings := state.warnings ++ defined.warnings }
      (made ++ [defined]) := by
  have new : defined.table.name ∉ made.map fun defined => defined.table.name :=
    fun member => fresh (holds.mem_names.mpr member)
  have apart : ∀ other ∈ made, other.table.name ≠ defined.table.name := fun other member equal =>
    new (List.mem_map.mpr ⟨other, member, equal⟩)
  refine
    { distinct := ?_
      names := ?_
      latest := fun table member => ?_
      foreignKeys := ?_
      repeats := fun name => ?_
      others := ?_ }
  · rw [List.map_append, List.map_singleton, List.nodup_append]
    refine ⟨holds.distinct, by simp, fun name old other last equal => fresh ?_⟩
    rwa [← List.mem_singleton.mp last, ← equal]
  · rw [List.map_append, holds.names, List.map_append, List.map_singleton, List.map_singleton,
      names_concat, if_neg new]
  · rw [latest?_concat]
    rcases List.mem_append.mp member with old | last
    · have other : defined.table.name ≠ table.name :=
        fun equal => fresh (equal ▸ List.mem_map_of_mem old)
      rw [if_neg other]
      exact holds.latest table old
    · rw [List.mem_singleton.mp last, if_pos rfl]
      exact ⟨defined, rfl, rfl⟩
  · -- no key is dropped, since none belongs to the new table
    have kept : state.foreignKeys.filter (fun key => key.table != defined.table.name) =
        state.foreignKeys := by
      rw [holds.foreignKeys, List.filter_eq_self]
      intro key member
      obtain ⟨other, inside, listed⟩ := List.mem_flatMap.mp member
      rw [bne_iff_ne, own other (surviving_subset inside) key listed]
      exact apart other (surviving_subset inside)
    rw [← holds.foreignKeys_concat own, kept]
  · have first := holds.repeats name
    rw [List.count_append, count_repeats_eq_zero quiet, List.countP_append, first]
    by_cases equal : defined.table.name = name
    · have none : made.countP (fun other => other.table.name == name) = 0 :=
        List.countP_eq_zero.mpr fun other member same =>
          apart other member ((beq_iff_eq.mp same).trans equal.symm)
      simp [equal, none]
    · simp [equal]
  · rw [List.filter_append, filter_others quiet, holds.others]
    simp

theorem Collected.Holds.add (holds : state.Holds made)
    (own : ∀ other ∈ made, ∀ key ∈ other.foreignKeys, key.table = other.table.name)
    (quiet : ∀ warning ∈ defined.warnings, isRepeat warning = false) :
    (state.add (.ok defined)).Holds (made ++ [defined]) := by
  simp only [Collected.add]
  split
  · next position found => exact holds.replace own quiet found
  · next fresh =>
    refine holds.append own quiet fun member => ?_
    obtain ⟨table, inside, name⟩ := List.mem_map.mp member
    simpa [name] using List.findIdx?_eq_none_iff.mp fresh table inside

end

theorem holds_collect {made : List DefinedTable}
    (own : ∀ other ∈ made, ∀ key ∈ other.foreignKeys, key.table = other.table.name)
    (quiet : ∀ other ∈ made, ∀ warning ∈ other.warnings, isRepeat warning = false) :
    (collect (made.map .ok)).Holds made := by
  induction made using List.reverseRecOn with
  | nil => constructor <;> simp [collect, surviving]
  | append_singleton earlier last ih =>
    simp only [List.forall_mem_append, List.forall_mem_singleton] at own quiet
    rw [collect, List.map_append, List.foldl_append]
    exact (ih own.1 quiet.1).add own.1 quiet.2

/-! Definitions without a name. -/

/-- The definitions that have a name. -/
def named (definitions : List (Dialect × CreateTable)) : List (Dialect × CreateTable) :=
  definitions.filter fun entry => !(tableName entry.2).isEmpty

/-- The table comes of this definition under some ids. -/
def MadeFrom (entry : Dialect × CreateTable) (defined : DefinedTable) : Prop :=
  ∃ ids left, defineTable ids entry.1 entry.2 = .ok (defined, left)

theorem add_errors (state : Collected) (errors : List NamelessTable) (defined : DefinedTable) :
    Collected.add { state with errors } (.ok defined) =
      { state.add (.ok defined) with errors } := by
  simp only [Collected.add]
  split <;> rfl

theorem foldl_add_errors (state : Collected) (errors : List NamelessTable) (made : List DefinedTable) :
    (made.map Except.ok).foldl Collected.add { state with errors } =
      { (made.map Except.ok).foldl Collected.add state with errors } := by
  induction made generalizing state with
  | nil => rfl
  | cons defined rest ih => rw [List.map_cons, List.foldl_cons, List.foldl_cons, add_errors, ih]

theorem foldl_add_successes (state : Collected)
    (outcomes : List (Except NamelessTable DefinedTable)) :
    outcomes.foldl Collected.add state =
      { ((successes outcomes).map Except.ok).foldl Collected.add state with
        errors := state.errors ++ failures outcomes } := by
  induction outcomes generalizing state with
  | nil =>
    rw [← foldl_add_errors]
    simp [successes, failures]
  | cons outcome rest ih =>
    rw [List.foldl_cons, ih]
    cases outcome with
    | error problem =>
      rw [Collected.add, foldl_add_errors]
      simp [failures]
    | ok defined =>
      have kept : (state.add (.ok defined)).errors = state.errors := by
        simp only [Collected.add]
        split <;> rfl
      rw [kept]
      rfl

theorem defineTables_named (ids : IdCounter) (definitions : List (Dialect × CreateTable)) :
    defineTables ids (named definitions) =
      ((successes (defineTables ids definitions).1).map .ok, (defineTables ids definitions).2) := by
  induction definitions generalizing ids with
  | nil => rfl
  | cons first rest ih =>
    obtain ⟨dialect, definition⟩ := first
    rw [defineTables_cons]
    by_cases nameless : (tableName definition).isEmpty
    · simpa [named, nameless] using ih ids
    · have later := ih (constrained ids dialect definition).ids
      rw [named, List.filter_cons_of_pos (by simpa using nameless), defineTables_cons, ← named, later]
      simp [nameless]

theorem failures_defineTables (ids : IdCounter) (definitions : List (Dialect × CreateTable)) :
    failures (defineTables ids definitions).1 =
      List.replicate (definitions.countP fun entry => (tableName entry.2).isEmpty) {} := by
  induction definitions generalizing ids with
  | nil => rfl
  | cons first rest ih =>
    obtain ⟨dialect, definition⟩ := first
    rw [defineTables_cons]
    by_cases nameless : (tableName definition).isEmpty
    · have later := ih ids
      unfold failures at later ⊢
      simp [nameless, later, List.replicate_succ]
    · have later := ih (constrained ids dialect definition).ids
      unfold failures at later ⊢
      simp [nameless, later]

theorem madeFrom_defineTables (ids : IdCounter) (definitions : List (Dialect × CreateTable)) :
    List.Forall₂ MadeFrom (named definitions) (successes (defineTables ids definitions).1) := by
  induction definitions generalizing ids with
  | nil => exact .nil
  | cons first rest ih =>
    obtain ⟨dialect, definition⟩ := first
    rw [defineTables_cons, named]
    by_cases nameless : (tableName definition).isEmpty
    · simpa [named, nameless] using ih ids
    · rw [if_neg nameless, List.filter_cons_of_pos (by simpa using nameless)]
      refine .cons ⟨ids, (constrained ids dialect definition).ids, ?_⟩ (ih _)
      rw [defineTable_eq, if_neg nameless]

theorem quiet_constraintWarnings (table : Table) (constraint : Option String × Constraint) :
    ∀ warning ∈ constraintWarnings table constraint, isRepeat warning = false := by
  intro warning member
  rcases List.mem_append.mp member with key | link
  · obtain ⟨name, -, rfl⟩ := List.mem_map.mp key
    rfl
  · obtain ⟨key, -, refused⟩ := List.mem_filterMap.mp link
    unfold Table.ownRefusal? at refused
    split at refused
    · cases refused
      rfl
    · cases refused

theorem quiet_definedTable (ids : IdCounter) (dialect : Dialect) (definition : CreateTable) :
    ∀ warning ∈ (definedTable ids dialect definition).warnings, isRepeat warning = false := by
  intro warning member
  rw [warnings_definedTable] at member
  rcases List.mem_append.mp member with declared | keyless
  · obtain ⟨constraint, -, inside⟩ := List.mem_flatMap.mp declared
    exact quiet_constraintWarnings _ constraint warning inside
  · unfold Defining.keyWarnings at keyless
    split at keyless
    · cases keyless
    · rw [List.mem_singleton.mp keyless]
      rfl

/-- Each name has the place of its first definition and the table and keys of its last one. Every other
definition of the name leaves one warning, and every definition without a name one error and nothing
else. -/
theorem redefinitions_collected (ids : IdCounter) (definitions : List (Dialect × CreateTable)) :
    let outcome := defineTables ids definitions
    ∃ made, List.Forall₂ MadeFrom (named definitions) made ∧
      (made.map fun defined => defined.table.name) = tableNames definitions ∧
      defineTables ids (named definitions) = (made.map .ok, outcome.2) ∧
      (collect outcome.1).Holds made ∧
      collect outcome.1 = { collect (made.map .ok) with
        errors := List.replicate (definitions.countP fun entry => (tableName entry.2).isEmpty) {} } := by
  intro outcome
  have parts : ∀ defined ∈ successes outcome.1, ∃ ids dialect definition,
      defined = definedTable ids dialect definition := fun defined member => by
    obtain ⟨result, inside, same⟩ := List.mem_filterMap.mp member
    cases result with
    | error problem => cases same
    | ok other =>
      cases same
      exact mem_defineTables inside
  have collected : collect outcome.1 = _ := foldl_add_successes {} outcome.1
  rw [List.nil_append, failures_defineTables] at collected
  have holds : (collect ((successes outcome.1).map .ok)).Holds (successes outcome.1) := by
    refine holds_collect (fun defined member => ?_) fun defined member => ?_
    · obtain ⟨ids, dialect, definition, rfl⟩ := parts defined member
      exact (agrees_definedTable ids dialect definition).1
    · obtain ⟨ids, dialect, definition, rfl⟩ := parts defined member
      exact quiet_definedTable ids dialect definition
  refine ⟨successes outcome.1, madeFrom_defineTables ids definitions, names_defineTables ids definitions,
    defineTables_named ids definitions, ?_, collected⟩
  rw [collected]
  exact ⟨holds.distinct, holds.names, holds.latest, holds.foreignKeys, holds.repeats, holds.others⟩

end DdlSchema.Schema
