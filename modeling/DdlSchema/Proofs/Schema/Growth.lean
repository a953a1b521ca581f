import Mathlib.Data.List.Forall2
import DdlSchema.Proofs.Schema.KeyNulls

/-! Steps on a schema only add to its tables. What a column is called and holds stays, flags are set and
indexes appended; a key is taken away only where another one is altered in; and a table that no step is
for stays as it is. -/

set_option autoImplicit false

namespace DdlSchema.Schema

open DdlSchema.Ddl

/-! What is kept of columns and tables. -/

structure Column.Grows (before after : Column) : Prop where
  id : after.id = before.id
  name : after.name = before.name
  dataType : after.dataType = before.dataType
  defaultValue : after.defaultValue = before.defaultValue
  collation : after.collation = before.collation
  comment : after.comment = before.comment
  isUnique : before.isUnique = true → after.isUnique = true
  isIndexed : before.isIndexed = true → after.isIndexed = true
  autoIncrement : before.autoIncrement = true → after.autoIncrement = true
  isForeignKey : before.isForeignKey = true → after.isForeignKey = true
  isNullable : after.isNullable = true → before.isNullable = true

/-- The columns are the same in number and order, and the indexes are followed by new ones. -/
structure Table.Grows (before after : Table) : Prop where
  name : after.name = before.name
  engine : after.engine = before.engine
  collation : after.collation = before.collation
  comment : after.comment = before.comment
  indexes : before.indexes <+: after.indexes
  columns : List.Forall₂ Column.Grows before.columns after.columns

/-- No column has left the primary key. -/
def Table.KeepsKeys (before after : Table) : Prop :=
  List.Forall₂ (fun column later => column.isPrimaryKey = true → later.isPrimaryKey = true)
    before.columns after.columns

theorem Column.Grows.refl (column : Column) : column.Grows column where
  id := rfl
  name := rfl
  dataType := rfl
  defaultValue := rfl
  collation := rfl
  comment := rfl
  isUnique flag := flag
  isIndexed flag := flag
  autoIncrement flag := flag
  isForeignKey flag := flag
  isNullable flag := flag

theorem Column.Grows.trans {first second third : Column} (earlier : first.Grows second)
    (later : second.Grows third) : first.Grows third where
  id := later.id.trans earlier.id
  name := later.name.trans earlier.name
  dataType := later.dataType.trans earlier.dataType
  defaultValue := later.defaultValue.trans earlier.defaultValue
  collation := later.collation.trans earlier.collation
  comment := later.comment.trans earlier.comment
  isUnique flag := later.isUnique (earlier.isUnique flag)
  isIndexed flag := later.isIndexed (earlier.isIndexed flag)
  autoIncrement flag := later.autoIncrement (earlier.autoIncrement flag)
  isForeignKey flag := later.isForeignKey (earlier.isForeignKey flag)
  isNullable flag := earlier.isNullable (later.isNullable flag)

theorem Mark.grows_apply (mark : Mark) (column : Column) : column.Grows (mark.apply column) := by
  have same := Column.Grows.refl column
  cases mark with
  | noKey => exact { same with }
  | primaryKey => exact { same with isNullable := nofun }
  | unique => exact { same with isUnique := fun _ => rfl }
  | autoIncrement => exact { same with autoIncrement := fun _ => rfl }
  | indexed => exact { same with isIndexed := fun _ => rfl }
  | foreignKey target => exact { same with isForeignKey := fun _ => rfl }

theorem forall₂_trans {α : Type} {R : α → α → Prop}
    (trans : ∀ first second third, R first second → R second third → R first third)
    {first second third : List α} (earlier : List.Forall₂ R first second)
    (later : List.Forall₂ R second third) : List.Forall₂ R first third := by
  induction earlier generalizing third with
  | nil => exact later
  | cons here _ ih =>
    cases later with
    | cons next rest => exact .cons (trans _ _ _ here next) (ih rest)

theorem Table.Grows.refl (table : Table) : table.Grows table :=
  ⟨rfl, rfl, rfl, rfl, List.prefix_refl _, List.forall₂_same.mpr fun column _ => .refl column⟩

theorem Table.Grows.trans {first second third : Table} (earlier : first.Grows second)
    (later : second.Grows third) : first.Grows third where
  name := later.name.trans earlier.name
  engine := later.engine.trans earlier.engine
  collation := later.collation.trans earlier.collation
  comment := later.comment.trans earlier.comment
  indexes := earlier.indexes.trans later.indexes
  columns := forall₂_trans (fun _ _ _ first next => first.trans next) earlier.columns later.columns

theorem Table.KeepsKeys.refl (table : Table) : table.KeepsKeys table :=
  List.forall₂_same.mpr fun _ _ key => key

theorem Table.KeepsKeys.trans {first second third : Table} (earlier : first.KeepsKeys second)
    (later : second.KeepsKeys third) : first.KeepsKeys third :=
  forall₂_trans (fun _ _ _ here next key => next (here key)) earlier later

/-! Marks and changes. -/

theorem forall₂_mark {R : Column → Column → Prop} (refl : ∀ column, R column column) {mark : Mark}
    (marked : ∀ column, R column (mark.apply column)) (table : Table) (places : List Nat) :
    List.Forall₂ R table.columns (table.mark places mark).columns := by
  refine List.forall₂_iff_get.mpr ⟨by simp [Table.mark], fun place bound _ => ?_⟩
  simp only [Table.mark, List.get_eq_getElem, List.getElem_mapIdx]
  split
  · exact marked _
  · exact refl _

theorem Table.grows_mark (table : Table) (places : List Nat) (mark : Mark) :
    table.Grows (table.mark places mark) :=
  { Table.Grows.refl table with columns := forall₂_mark Column.Grows.refl mark.grows_apply table places }

theorem Table.keepsKeys_mark (table : Table) (places : List Nat) {mark : Mark} (keyed : mark ≠ .noKey) :
    table.KeepsKeys (table.mark places mark) := by
  refine forall₂_mark (fun _ key => key) (fun column key => ?_) table places
  cases mark with
  | noKey => exact absurd rfl keyed
  | primaryKey => rfl
  | unique | autoIncrement | indexed | foreignKey target => exact key

theorem Change.grows_apply (state : Table × IdCounter) (change : Change) :
    state.1.Grows (apply state change).1 := by
  have marked := state.1.grows_mark (change.positions state.1) change.mark
  rw [apply_eq]
  simp only
  split
  · exact { marked with indexes := marked.indexes.trans (List.prefix_append _ _) }
  · exact marked

theorem Change.keepsKeys_apply (state : Table × IdCounter) {change : Change}
    (keyed : change.mark ≠ .noKey) : state.1.KeepsKeys (apply state change).1 := by
  rw [Table.KeepsKeys, columns_apply]
  exact state.1.keepsKeys_mark _ keyed

/-- What every one of the changes does to a table is done by all of them. -/
theorem Change.related_applyAll {R : Table → Table → Prop} (refl : ∀ table, R table table)
    (trans : ∀ {first second third}, R first second → R second third → R first third)
    (state : Table × IdCounter) {changes : List Change}
    (applied : ∀ change ∈ changes, ∀ state : Table × IdCounter, R state.1 (apply state change).1) :
    R state.1 (applyAll state changes).1 := by
  induction changes generalizing state with
  | nil => exact refl _
  | cons change rest ih =>
    exact trans (applied change List.mem_cons_self state)
      (ih _ fun later member => applied later (List.mem_cons_of_mem _ member))

/-! What a step does to the table at a position. -/

def AlterConstraints.tableNames (alter : AlterConstraints) : List String :=
  alter.primaryKeys.map PrimaryKeyClause.table ++ alter.uniqueKeys.map UniqueKeyClause.table ++
    alter.autoIncrements.map AutoIncrementClause.table ++ alter.indexes.map IndexClause.table ++
    alter.foreignKeys.map ForeignKey.table

/-- The step is for the table at the position. -/
def Step.Concerns (tables : List Table) (position : Nat) : Step → Prop
  | .merge _ alter => ∃ name ∈ alter.tableNames, findTable? tables name = some position
  | .markPrimaryKey table _ | .markForeignKey table _ _ | .detectKey table => table = position
  | .define _ _ => False

/-- The step alters a primary key into the table at the position. -/
def Step.Rekeys (tables : List Table) (position : Nat) : Step → Prop
  | .merge _ alter => ∃ clause ∈ alter.primaryKeys, findTable? tables clause.table = some position
  | .markPrimaryKey _ _ | .markForeignKey _ _ _ | .detectKey _ | .define _ _ => False

/-- What the step makes of the table at a position, one change at a time. -/
inductive Step.Makes (tables : List Table) (position : Nat) : Step → (Table → Table) → Prop where
  | amend {keys : List ForeignKey} {alter : AlterConstraints} {amendment : String × List Change}
      (member : amendment ∈ alter.changes) (named : findTable? tables amendment.1 = some position)
      (ids : IdCounter) :
      Makes tables position (.merge keys alter) fun table =>
        (Change.applyAll (table, ids) amendment.2).1
  | markPrimaryKey (column : Nat) : Makes tables position (.markPrimaryKey position column)
      fun table => table.mark [column] .primaryKey
  | markForeignKey (column : Nat) (target : Target) :
      Makes tables position (.markForeignKey position column target)
        fun table => table.mark [column] (.foreignKey target)
  | detectKey : Makes tables position (.detectKey position) Table.detectKey

section

variable {R : Table → Table → Prop} (refl : ∀ table, R table table)
  (trans : ∀ {first second third}, R first second → R second third → R first third)

include refl trans

theorem related_changeNamed (tables : List Table) {position : Nat} (amendments : List (String × List Change))
    (state : List Table × IdCounter) (names : state.1.map Table.name = tables.map Table.name)
    {before : Table} (here : state.1[position]? = some before)
    (made : ∀ amendment ∈ amendments, findTable? tables amendment.1 = some position →
      ∀ ids table, R table (Change.applyAll (table, ids) amendment.2).1) :
    ∃ after, (amendments.foldl changeNamed state).1[position]? = some after ∧ R before after := by
  -- names stay, so every amendment is for the table that it names at the start
  induction amendments generalizing state before with
  | nil => exact ⟨before, here, refl before⟩
  | cons amendment rest ih =>
    have kept := names_of_outlines (outlines_changeNamed state amendment)
    obtain ⟨middle, there, first⟩ : ∃ middle, (changeNamed state amendment).1[position]? = some middle ∧
        R before middle := by
      unfold changeNamed changeAt
      cases found : findTable? state.1 amendment.1 with
      | none => exact ⟨before, here, refl before⟩
      | some place =>
        have bound := findTable?_lt found
        simp only [List.getElem?_eq_getElem bound, List.getElem?_set]
        by_cases same : place = position
        · subst same
          rw [List.getElem?_eq_getElem bound, Option.some_inj] at here
          rw [findTable?_congr names] at found
          simp only [bound, if_true]
          exact ⟨_, rfl, here ▸ made amendment List.mem_cons_self found _ _⟩
        · rw [if_neg same]
          exact ⟨before, here, refl before⟩
    obtain ⟨after, last, later⟩ := ih (changeNamed state amendment) (kept.trans names) there
      fun other member => made other (List.mem_cons_of_mem _ member)
    exact ⟨after, last, trans first later⟩

omit trans in
theorem related_modify {tables : List Table} {position place : Nat} {before : Table} {change : Table → Table}
    (here : tables[position]? = some before) (made : place = position → R before (change before)) :
    ∃ after, (tables.modify place change)[position]? = some after ∧ R before after := by
  rw [List.getElem?_modify, here]
  by_cases same : place = position
  · exact ⟨change before, by simp [same], made same⟩
  · exact ⟨before, by simp [same], refl before⟩

theorem related_step {state : List Table × IdCounter} {step : Step} {position : Nat} {before : Table}
    (here : state.1[position]? = some before)
    (made : ∀ change, step.Makes state.1 position change → ∀ table, R table (change table)) :
    ∃ after, (step.run state).1[position]? = some after ∧ R before after := by
  cases step with
  | define dialect definition =>
    refine ⟨before, ?_, refl before⟩
    simp only [Step.run]
    split
    · rw [List.getElem?_append_left (List.getElem?_eq_some_iff.mp here).1, here]
    · exact here
  | merge keys alter =>
    simp only [Step.run, merge_eq]
    exact related_changeNamed refl trans state.1 alter.changes (state.1, state.2) rfl here
      fun amendment member named ids table => made _ (.amend member named ids) table
  | markPrimaryKey table column =>
    refine related_modify refl here fun same => ?_
    subst same
    rw [Table.modifyColumn_markPrimaryKey]
    exact made _ (.markPrimaryKey column) before
  | markForeignKey table column target =>
    refine related_modify refl here fun same => ?_
    subst same
    rw [show (Column.markForeignKey · target) = (Mark.foreignKey target).apply from rfl,
      Table.modifyColumn_eq_mark]
    exact made _ (.markForeignKey column target) before
  | detectKey table =>
    exact related_modify refl here fun same => made _ (same ▸ .detectKey) before

end

theorem Table.detectKey_eq_mark (table : Table) : ∃ places, table.detectKey = table.mark places .primaryKey := by
  unfold Table.detectKey
  split
  · next place _ => exact ⟨[place], table.modifyColumn_markPrimaryKey place⟩
  · exact ⟨[], (table.mark_nil _).symm⟩

section

variable {tables : List Table} {position : Nat} {step : Step} {change : Table → Table}

theorem Step.Makes.grows (made : step.Makes tables position change) (table : Table) :
    table.Grows (change table) := by
  cases made with
  | amend _ _ ids =>
    exact Change.related_applyAll Table.Grows.refl Table.Grows.trans (table, ids)
      fun change _ state => Change.grows_apply state change
  | markPrimaryKey column => exact table.grows_mark [column] .primaryKey
  | markForeignKey column target => exact table.grows_mark [column] (.foreignKey target)
  | detectKey =>
    obtain ⟨places, marked⟩ := table.detectKey_eq_mark
    rw [marked]
    exact table.grows_mark places .primaryKey

theorem keyed_changes {alter : AlterConstraints} {amendment : String × List Change}
    (member : amendment ∈ alter.changes) :
    (∃ clause ∈ alter.primaryKeys, clause.table = amendment.1) ∨
      ∀ change ∈ amendment.2, change.mark ≠ .noKey := by
  simp only [AlterConstraints.changes, AlterConstraints.amendments, List.map_append, List.map_map,
    List.mem_append, List.mem_map, Function.comp_def] at member
  -- of the five kinds of clauses only the first clears the keys
  rcases member with (((⟨clause, inside, rfl⟩ | ⟨clause, -, rfl⟩) | ⟨clause, -, rfl⟩) |
    ⟨clause, -, rfl⟩) | ⟨key, -, rfl⟩
  · exact Or.inl ⟨clause, inside, rfl⟩
  all_goals exact Or.inr fun change here => by rw [List.mem_singleton.mp here]; exact Mark.noConfusion

theorem mem_tableNames {alter : AlterConstraints} {amendment : String × List Change}
    (member : amendment ∈ alter.changes) : amendment.1 ∈ alter.tableNames := by
  have names : alter.tableNames = alter.changes.map Prod.fst := by
    simp [AlterConstraints.tableNames, AlterConstraints.changes, AlterConstraints.amendments,
      Function.comp_def, PrimaryKeyClause.amendment, UniqueKeyClause.amendment,
      AutoIncrementClause.amendment, IndexClause.amendment, ForeignKey.change]
  exact names ▸ List.mem_map_of_mem member

theorem Step.Makes.keepsKeys (made : step.Makes tables position change)
    (kept : ¬ step.Rekeys tables position) (table : Table) : table.KeepsKeys (change table) := by
  cases made with
  | amend member named ids =>
    rcases keyed_changes member with ⟨clause, inside, same⟩ | keyed
    · exact absurd ⟨clause, inside, same ▸ named⟩ kept
    · exact Change.related_applyAll Table.KeepsKeys.refl Table.KeepsKeys.trans (table, ids)
        fun change inside state => Change.keepsKeys_apply state (keyed change inside)
  | markPrimaryKey column => exact table.keepsKeys_mark [column] nofun
  | markForeignKey column target => exact table.keepsKeys_mark [column] nofun
  | detectKey =>
    obtain ⟨places, marked⟩ := table.detectKey_eq_mark
    rw [marked]
    exact table.keepsKeys_mark places nofun

theorem Step.Makes.concerns (made : step.Makes tables position change) : step.Concerns tables position := by
  cases made with
  | amend member named ids => exact ⟨_, mem_tableNames member, named⟩
  | markPrimaryKey column => rfl
  | markForeignKey column target => rfl
  | detectKey => rfl

end

/-! Runs of steps. -/

/-- A step of the run has the property, told by the tables that it meets. -/
def SomeStep (P : List Table → Step → Prop) (state : List Table × IdCounter) (steps : List Step) : Prop :=
  ∃ earlier step later, steps = earlier ++ step :: later ∧ P (earlier.foldl Step.run state).1 step

theorem SomeStep.head {P : List Table → Step → Prop} {state : List Table × IdCounter} {step : Step}
    (holds : P state.1 step) (rest : List Step) : SomeStep P state (step :: rest) :=
  ⟨[], step, rest, rfl, holds⟩

theorem SomeStep.tail {P : List Table → Step → Prop} {state : List Table × IdCounter} {step : Step}
    {rest : List Step} (holds : SomeStep P (step.run state) rest) : SomeStep P state (step :: rest) := by
  obtain ⟨earlier, other, later, rfl, found⟩ := holds
  exact ⟨step :: earlier, other, later, rfl, found⟩

/-- What a step keeps of a table unless it has a property is kept by a run without such a step. -/
theorem related_run {R : Table → Table → Prop} (refl : ∀ table, R table table)
    (trans : ∀ {first second third}, R first second → R second third → R first third)
    {P : List Table → Step → Prop} {position : Nat}
    (made : ∀ {tables step change}, ¬ P tables step → step.Makes tables position change →
      ∀ table, R table (change table))
    (steps : List Step) {state : List Table × IdCounter} {before : Table}
    (here : state.1[position]? = some before) :
    ∃ after, (steps.foldl Step.run state).1[position]? = some after ∧
      (R before after ∨ SomeStep P state steps) := by
  induction steps generalizing state before with
  | nil => exact ⟨before, here, Or.inl (refl before)⟩
  | cons step rest ih =>
    by_cases holds : P state.1 step
    · -- the table is still there, whatever becomes of it
      obtain ⟨middle, there, -⟩ : ∃ middle, (step.run state).1[position]? = some middle ∧ True :=
        related_step (R := fun _ _ => True) (fun _ => trivial) (fun _ _ => trivial) here
          fun _ _ _ => trivial
      obtain ⟨after, last, -⟩ := ih there
      exact ⟨after, last, Or.inr (.head holds rest)⟩
    · obtain ⟨middle, there, first⟩ := related_step refl trans here fun _ => made holds
      obtain ⟨after, last, kept | found⟩ := ih there
      · exact ⟨after, last, Or.inl (trans first kept)⟩
      · exact ⟨after, last, Or.inr found.tail⟩

theorem length_foldl_changeNamed (state : List Table × IdCounter) (amendments : List (String × List Change)) :
    (amendments.foldl changeNamed state).1.length = state.1.length := by
  simpa using congrArg List.length (outlines_foldl_changeNamed state amendments)

def Step.defines : Step → Bool
  | .define _ _ => true
  | .merge _ _ | .markPrimaryKey _ _ | .markForeignKey _ _ _ | .detectKey _ => false

theorem length_run {steps : List Step} (amending : ∀ step ∈ steps, step.defines = false)
    (state : List Table × IdCounter) : (steps.foldl Step.run state).1.length = state.1.length := by
  induction steps generalizing state with
  | nil => rfl
  | cons step rest ih =>
    rw [List.foldl_cons, ih fun later member => amending later (List.mem_cons_of_mem _ member)]
    cases step with
    | define dialect definition => cases amending _ List.mem_cons_self
    | merge keys alter =>
      simp only [Step.run, merge_eq]
      exact length_foldl_changeNamed (state.1, state.2) alter.changes
    | markPrimaryKey | markForeignKey | detectKey => simp [Step.run]

/-- Over any run of steps every table stays in its place and grows. A column leaves the primary key only
where a step alters another one into its table, and a table that no step is for stays as it was. There
are as many tables as before unless some are defined. -/
theorem steps_only_add (state : List Table × IdCounter) (steps : List Step) :
    (∀ position before, state.1[position]? = some before →
      ∃ after, (steps.foldl Step.run state).1[position]? = some after ∧ before.Grows after ∧
        (before.KeepsKeys after ∨ SomeStep (fun tables step => step.Rekeys tables position) state steps) ∧
        (after = before ∨ SomeStep (fun tables step => step.Concerns tables position) state steps)) ∧
    ((∀ step ∈ steps, step.defines = false) →
      (steps.foldl Step.run state).1.length = state.1.length) := by
  refine ⟨fun position before here => ?_, fun amending => length_run amending state⟩
  obtain ⟨after, last, grown⟩ := related_run (P := fun _ _ => False) Table.Grows.refl Table.Grows.trans
    (fun _ (made : Step.Makes _ position _ _) => made.grows) steps here
  obtain ⟨_, keyed, keys⟩ := related_run Table.KeepsKeys.refl Table.KeepsKeys.trans
    (P := fun tables step => step.Rekeys tables position) (fun kept made => made.keepsKeys kept) steps here
  obtain ⟨_, found, same⟩ := related_run (R := fun before after => after = before) (fun _ => rfl)
    (fun first next => next.trans first) (P := fun tables step => step.Concerns tables position)
    (fun apart made => absurd made.concerns apart) steps here
  cases Option.some.inj (last.symm.trans keyed)
  cases Option.some.inj (last.symm.trans found)
  refine ⟨after, last, ?_, keys, same⟩
  rcases grown with grown | ⟨_, _, _, _, impossible⟩
  · exact grown
  · exact impossible.elim

theorem steps_only_add_altered :
    let id : Column := { id := "c1", name := "id", dataType := "INT", isPrimaryKey := true, isNullable := false }
    let code : Column := { id := "c2", name := "code", dataType := "INT" }
    let user : Table := { name := "user", columns := [id, code] }
    let post : Table := { name := "post", columns := [{ code with id := "c3" }] }
    let altered : Table := { user with
      columns := [{ id with isPrimaryKey := false },
        { code with isPrimaryKey := true, isNullable := false, target := some ⟨"post", "code"⟩ }] }
    let state : List Table × IdCounter := ([user, post], .start)
    let steps := [Step.merge [] { primaryKeys := [⟨"USER", ["code"]⟩] },
      .markForeignKey 0 1 ⟨"post", "code"⟩]
    (steps.foldl Step.run state).1 = [altered, post] ∧ (steps.foldl Step.run state).1.length = 2 ∧
      user.Grows altered ∧ ¬ user.KeepsKeys altered ∧
      SomeStep (fun tables step => step.Rekeys tables 0) state steps ∧
      ¬ SomeStep (fun tables step => step.Concerns tables 1) state steps := by
  intro id code user post altered state steps
  have run : (steps.foldl Step.run state).1 = [altered, post] := by decide +kernel
  have only := steps_only_add state steps
  have many : (steps.foldl Step.run state).1.length = 2 := only.2 (by decide)
  obtain ⟨after, there, grown, keys, -⟩ := only.1 0 user rfl
  rw [run] at there
  cases there
  have lost : ¬ user.KeepsKeys altered := by
    intro kept
    cases kept with
    | cons first _ => exact Bool.false_ne_true (first rfl)
  refine ⟨run, many, grown, lost, keys.resolve_left lost, ?_⟩
  rintro ⟨earlier, step, later, split, concerned⟩
  rcases earlier with _ | ⟨first, _ | ⟨second, rest⟩⟩
  · obtain ⟨rfl, -⟩ := List.cons.inj split
    obtain ⟨name, named, found⟩ := concerned
    cases List.mem_singleton.mp named
    exact absurd found (by decide +kernel)
  · obtain ⟨-, tail⟩ := List.cons.inj split
    obtain ⟨rfl, -⟩ := List.cons.inj tail
    cases concerned
  · simp [steps] at split

end DdlSchema.Schema
