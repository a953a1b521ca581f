import DdlSchema.Proofs.Ddl.Screening
import DdlSchema.Proofs.Schema.Growth
import DdlSchema.Proofs.Schema.Indexing

/-! What a definition that a dialect accepts comes to. The table shows nothing that belongs to another
dialect: what is refused in a definition covers all that its table is made from. -/

set_option autoImplicit false

namespace DdlSchema.Schema

open DdlSchema.Ddl

/-! Where the indexes and the flags of a table come from. -/

namespace Change

theorem mem_indexes_apply {state : Table × IdCounter} {change : Change} {index : Index}
    (member : index ∈ (apply state change).1.indexes) :
    index ∈ state.1.indexes ∨ ∃ name, change.index = some (name, index.kind) := by
  rw [apply_eq] at member
  simp only at member
  split at member
  · next added made =>
    rcases List.mem_append.mp member with old | new
    · exact Or.inl old
    · rw [List.mem_singleton.mp new]
      obtain ⟨⟨name, kind⟩, declared, made⟩ := Option.bind_eq_some_iff.mp made
      simp only [Option.ite_none_left_eq_some, Option.some.injEq] at made
      obtain ⟨-, rfl⟩ := made
      exact Or.inr ⟨name, declared⟩
  · exact Or.inl member

theorem mem_indexes_applyAll {state : Table × IdCounter} {changes : List Change} {index : Index}
    (member : index ∈ (applyAll state changes).1.indexes) :
    index ∈ state.1.indexes ∨ ∃ change ∈ changes, ∃ name, change.index = some (name, index.kind) := by
  induction changes generalizing state with
  | nil => exact Or.inl member
  | cons change rest ih =>
    rcases ih member with earlier | ⟨later, inside, declared⟩
    · exact (mem_indexes_apply earlier).imp_right fun declared => ⟨change, List.mem_cons_self, declared⟩
    · exact Or.inr ⟨later, List.mem_cons_of_mem _ inside, declared⟩

end Change

def Table.increments (table : Table) : List Bool := table.columns.map Column.autoIncrement

theorem Table.increments_mark (table : Table) (places : List Nat) {mark : Mark}
    (other : mark ≠ .autoIncrement) : (table.mark places mark).increments = table.increments := by
  have kept : ∀ column, (mark.apply column).autoIncrement = column.autoIncrement := by
    intro column
    cases mark with
    | autoIncrement => exact absurd rfl other
    | noKey | primaryKey | unique | indexed | foreignKey target => rfl
  exact table.map_mark Column.autoIncrement kept places

theorem Change.increments_applyAll (state : Table × IdCounter) {changes : List Change}
    (other : ∀ change ∈ changes, change.mark ≠ .autoIncrement) :
    (applyAll state changes).1.increments = state.1.increments := by
  refine related_applyAll (R := fun before after => after.increments = before.increments)
    (fun _ => rfl) (fun first next => next.trans first) state fun change member state => ?_
  rw [Table.increments, columns_apply]
  exact state.1.increments_mark _ (other change member)

/-! Columns and the constraints that count for them. -/

def countsUp : Constraint → Bool
  | .autoIncrement | .identity none => true
  | _ => false

theorem Column.autoIncrement_apply (dialect : Dialect) (column : Column) (kind : Constraint) :
    (column.apply dialect kind).autoIncrement = (column.autoIncrement || countsUp kind) := by
  unfold Column.apply countsUp
  split <;> simp_all [Column.markPrimaryKey, Column.markUnique]

theorem Column.autoIncrement_declare (dialect : Dialect) (column : Column)
    (constraints : List ColumnConstraint) :
    (column.declare dialect constraints).autoIncrement =
      (column.autoIncrement || (effective constraints).any fun constraint => countsUp constraint.kind) := by
  unfold Column.declare
  induction effective constraints generalizing column with
  | nil => simp
  | cons constraint rest ih =>
    rw [List.foldl_cons, ih, autoIncrement_apply, List.any_cons, Bool.or_assoc]

theorem autoIncrement_defineColumn (table : String) (dialect : Dialect) (id : String)
    (parts : String × Option DataType × List ColumnConstraint) :
    (defineColumn table dialect id parts).1.autoIncrement =
      (isSerial (declaredType parts.2.1) ||
        (effective parts.2.2).any fun constraint => countsUp constraint.kind) := by
  obtain ⟨name, type, constraints⟩ := parts
  simp only [defineColumn, Column.applyAll_eq]
  cases inlineReference? constraints <;>
    simp [Column.close, Column.markForeignKey, Column.autoIncrement_declare, Column.fresh]

theorem comment_defineColumn (table : String) (dialect : Dialect) (id : String)
    {parts : String × Option DataType × List ColumnConstraint}
    (silent : ∀ constraint ∈ parts.2.2, ∀ text, constraint.kind ≠ .comment text) :
    (defineColumn table dialect id parts).1.comment = none := by
  obtain ⟨name, type, constraints⟩ := parts
  have declared : ((Column.fresh id name type).declare dialect constraints).comment = none := by
    refine List.foldlRecOn (motive := fun column : Column => column.comment = none) (effective constraints) _ rfl
      fun column before constraint member => ?_
    have other := silent constraint ((List.takeWhile_sublist _).subset member)
    unfold Column.apply
    split
    case h_8 text said => exact absurd said (other text)
    all_goals exact before
  simp only [defineColumn, Column.applyAll_eq]
  cases inlineReference? constraints <;> simpa [Column.close, Column.markForeignKey] using declared

section

variable (ids : IdCounter) (dialect : Dialect) (definition : CreateTable)

theorem grows_finish :
    (startTable (tableName definition) dialect definition.entries ids).table.Grows
      (constrained ids dialect definition).finish.table := by
  rw [Defining.finish_eq, constrained_eq]
  refine Table.Grows.trans ?_ (Table.grows_mark _ _ .primaryKey)
  exact Change.related_applyAll Table.Grows.refl Table.Grows.trans (_, _)
    fun change _ state => Change.grows_apply state change

theorem increments_definedTable :
    (definedTable ids dialect definition).table.increments =
      (definition.entries.filterMap columnParts?).map fun parts =>
        isSerial (declaredType parts.2.1) ||
          (effective parts.2.2).any fun constraint => countsUp constraint.kind := by
  let start := startTable (tableName definition) dialect definition.entries ids
  let changes := (tableConstraints definition).flatMap constraintChanges
  have other : ∀ change ∈ changes, change.mark ≠ .autoIncrement := by
    intro change member
    obtain ⟨constraint, -, inside⟩ := List.mem_flatMap.mp member
    rcases mark_constraintChanges inside with ⟨key, -⟩ | unique | indexed | ⟨target, link⟩ <;> simp [*]
  -- all that comes after the columns leaves them as they count, so each counts by its own parts
  calc (definedTable ids dialect definition).table.increments
      = (constrained ids dialect definition).finish.table.increments := by
        simp only [definedTable, Table.increments, (Table.decorate_apart _ _).2.1]
    _ = (constrained ids dialect definition).table.increments := by
        rw [Defining.finish_eq]
        exact Table.increments_mark _ _ Mark.noConfusion
    _ = start.table.increments := by
        rw [constrained_eq]
        exact Change.increments_applyAll (start.table, start.ids) other
    _ = _ := map_defineColumns Column.autoIncrement
        (autoIncrement_defineColumn (tableName definition) dialect) ids _

end

/-! The constraints that a table is made from are all looked at. -/

section

variable {dialect : Dialect} {definition : CreateTable}

theorem mem_constraints_of_columnParts? {element : Element} (member : element ∈ definition.entries)
    {parts : String × Option DataType × List ColumnConstraint} (column : columnParts? element = some parts)
    {constraint : ColumnConstraint} (inside : constraint ∈ parts.2.2) :
    constraint.kind ∈ definition.constraints := by
  refine List.mem_flatMap.mpr ⟨element, member, List.mem_append_right _ ?_⟩
  cases element with
  | column own =>
    cases column
    exact List.mem_map_of_mem inside
  | bareColumn name =>
    cases column
    cases inside
  | constraint | namedConstraint | expression => cases column

theorem mem_constraints_of_tableConstraints {constraint : Option String × Constraint}
    (member : constraint ∈ tableConstraints definition) : constraint.2 ∈ definition.constraints := by
  obtain ⟨element, listed, inside⟩ := List.mem_flatMap.mp member
  refine List.mem_flatMap.mpr ⟨element, listed, List.mem_append_left _ ?_⟩
  cases element with
  | constraint kind => simp_all [constraintsOf, Element.ownConstraints]
  | namedConstraint name kinds =>
    obtain ⟨kind, named, rfl⟩ := List.mem_map.mp inside
    exact List.mem_append_right _ named
  | column | bareColumn | expression => cases inside

/-! Tables without what only MySQL has. -/

/-- The table is of the default engine, has no collation and no comments, and no indexes but those of
unique keys. -/
structure Table.IsPlain (table : Table) : Prop where
  engine : table.engine = .innoDB
  collation : table.collation = none
  comment : table.comment = none
  indexes : ∀ index ∈ table.indexes, index.kind = .unique
  indexed : ∀ column ∈ table.columns, column.isIndexed = false
  comments : ∀ column ∈ table.columns, column.comment = none

theorem kind_of_constraintChanges {constraint : Option String × Constraint}
    (plain : constraint.2.mysqlOnly? = none) {change : Change} (member : change ∈ constraintChanges constraint)
    {name : Option String} {kind : IndexKind} (declared : change.index = some (name, kind)) :
    kind = .unique := by
  unfold constraintChanges at member
  split at member
  · rw [List.mem_singleton.mp member] at declared
    cases declared
  · rw [List.mem_singleton.mp member] at declared
    obtain ⟨_, -, same⟩ := Option.map_eq_some_iff.mp declared
    exact (congrArg Prod.snd same).symm
  · next index =>
    rw [index] at plain
    cases plain
  · obtain ⟨key, -, rfl⟩ := List.mem_map.mp member
    cases declared

theorem decorate_of_temporary {properties : List Property}
    (bare : ∀ property ∈ properties, property = .temporary) (table : Table) :
    table.decorate properties = table := by
  induction properties with
  | nil => rfl
  | cons property rest ih =>
    obtain ⟨rfl, others⟩ := List.forall_mem_cons.mp bare
    exact ih others

theorem Table.Grows.comments {before after : Table} (grown : before.Grows after) :
    before.columns.map Column.comment = after.columns.map Column.comment := by
  rw [← List.forall₂_eq_eq_eq, List.forall₂_map_left_iff, List.forall₂_map_right_iff]
  exact grown.columns.imp fun _ _ grown => grown.comment.symm

section

variable (ids : IdCounter) (reader : Dialect) (plain : ∀ constraint ∈ definition.constraints,
  constraint.mysqlOnly? = none)

include plain

theorem kind_of_constrained {index : Index}
    (member : index ∈ (constrained ids reader definition).table.indexes) : index.kind = .unique := by
  rw [constrained_eq] at member
  rcases Change.mem_indexes_applyAll member with start | ⟨change, inside, name, declared⟩
  · exact absurd start List.not_mem_nil
  · obtain ⟨constraint, listed, inside⟩ := List.mem_flatMap.mp inside
    exact kind_of_constraintChanges (plain _ (mem_constraints_of_tableConstraints listed)) inside declared

theorem comment_of_start {column : Column}
    (member : column ∈ (startTable (tableName definition) reader definition.entries ids).table.columns) :
    column.comment = none := by
  obtain ⟨pair, inside, rfl⟩ := List.mem_map.mp member
  obtain ⟨id, parts, listed, rfl⟩ := mem_defineColumns inside
  obtain ⟨element, entry, shaped⟩ := List.mem_filterMap.mp listed
  refine comment_defineColumn _ reader id fun constraint inside text said => ?_
  have silent := plain _ (mem_constraints_of_columnParts? entry shaped inside)
  rw [said] at silent
  cases silent

end

theorem isPlain_definedTable (ids : IdCounter) (reader : Dialect) (admitted : definition.Admitted dialect)
    (other : dialect ≠ .mysql) : (definedTable ids reader definition).table.IsPlain := by
  have plain := admitted.constraints other
  have grown := grows_finish ids reader definition
  have decorated : (definedTable ids reader definition).table =
      (constrained ids reader definition).finish.table :=
    decorate_of_temporary (admitted.properties other) _
  have kinds : ∀ index ∈ (definedTable ids reader definition).table.indexes, index.kind = .unique := by
    rw [decorated, Defining.finish_eq]
    exact fun index member => kind_of_constrained ids reader plain member
  refine
    { engine := by rw [decorated, grown.engine]; rfl
      collation := by rw [decorated, grown.collation]; rfl
      comment := by rw [decorated, grown.comment]; rfl
      indexes := kinds
      indexed := fun column member => ?_
      comments := fun column member => ?_ }
  · -- only an index of another kind flags the columns that it lists
    refine Bool.eq_false_iff.mpr fun flagged => ?_
    obtain ⟨index, inside, other, -⟩ :=
      ((wellIndexed_definedTable ids reader definition).indexed column member).mp flagged
    exact other (kinds index inside)
  · rw [decorated] at member
    have said := List.mem_map_of_mem (f := Column.comment) member
    rw [← grown.comments] at said
    obtain ⟨before, start, same⟩ := List.mem_map.mp said
    rw [← same, comment_of_start ids reader plain start]

/-! Columns that count up without an identity. -/

def isIncrement : Constraint → Bool
  | .autoIncrement => true
  | _ => false

/-- Counting up is in the type of a column or in an increment that counts for it. -/
def isCounted (parts : String × Option DataType × List ColumnConstraint) : Bool :=
  isSerial (declaredType parts.2.1) || (effective parts.2.2).any fun constraint => isIncrement constraint.kind

theorem countsUp_eq_isIncrement {kind : Constraint} (other : kind.isIdentity = false) :
    countsUp kind = isIncrement kind := by
  cases kind with
  | identity expression => cases other
  | _ => rfl

theorem increments_of_admitted (ids : IdCounter) (reader : Dialect) (admitted : definition.Admitted dialect)
    (other : dialect ≠ .postgresql) : (definedTable ids reader definition).table.increments =
      (definition.entries.filterMap columnParts?).map isCounted := by
  rw [increments_definedTable]
  refine List.map_congr_left fun parts listed => ?_
  obtain ⟨element, entry, shaped⟩ := List.mem_filterMap.mp listed
  have same : ((effective parts.2.2).any fun constraint => countsUp constraint.kind) =
      (effective parts.2.2).any fun constraint => isIncrement constraint.kind := by
    rw [Bool.eq_iff_iff, List.any_eq_true, List.any_eq_true]
    refine exists_congr fun constraint => and_congr_right fun counted => ?_
    have declared := (List.takeWhile_sublist _).subset counted
    rw [countsUp_eq_isIncrement
      (admitted.identities other _ (mem_constraints_of_columnParts? entry shaped declared))]
  rw [isCounted, same]

end

/-- What a dialect accepts is read as the dialect means it. Without MySQL the table holds nothing that is
MySQL's alone, outside PostgreSQL no column counts up through an identity, and outside SQLite every column
has a type. A table comes of it unless the definition has no name. -/
theorem screened_definition {dialect : Dialect} {statement : Statement} {definition : CreateTable}
    (accepted : checkStatement dialect statement = .ok definition) :
    (dialect ≠ .sqlite → ∀ element ∈ definition.entries, columnParts? element = none ∨
      ∃ own type, element = .column own ∧ own.type = some type) ∧
    (dialect ≠ .postgresql → ∀ constraint ∈ definition.constraints, constraint.isIdentity = false) ∧
    ∀ ids reader, (tableName definition = "" ∧ defineTable ids reader definition = .error {}) ∨
      ∃ defined rest, defineTable ids reader definition = .ok (defined, rest) ∧
        (dialect ≠ .mysql → defined.table.IsPlain) ∧
        (dialect ≠ .postgresql →
          defined.table.increments = (definition.entries.filterMap columnParts?).map isCounted) := by
  obtain ⟨rfl, admitted⟩ := checkStatement_eq_ok_iff.mp accepted
  refine ⟨fun other element member => ?_, admitted.identities, fun ids reader => ?_⟩
  · cases element with
    | column own =>
      have typed : own.type.isSome = true :=
        admitted.types other _ member (own.name, own.type.isSome) rfl
      obtain ⟨type, declared⟩ := Option.isSome_iff_exists.mp typed
      exact Or.inr ⟨own, type, rfl, declared⟩
    | bareColumn name => exact absurd (admitted.types other _ member (name, false) rfl) Bool.false_ne_true
    | constraint | namedConstraint | expression => exact Or.inl rfl
  · rw [defineTable_eq]
    by_cases nameless : (tableName definition).isEmpty
    · rw [if_pos nameless]
      exact Or.inl ⟨String.isEmpty_iff.mp nameless, rfl⟩
    · rw [if_neg nameless]
      exact Or.inr ⟨_, _, rfl, isPlain_definedTable ids reader admitted,
        increments_of_admitted ids reader admitted⟩

theorem screened_definition_pair :
    let identity : Element := .column ⟨⟨"id", false⟩, some (.known "INT" []), [⟨none, .identity none⟩]⟩
    let increment : Element := .column ⟨⟨"id", false⟩, some (.known "INT" []), [⟨none, .autoIncrement⟩]⟩
    let key : Element := .namedConstraint (some "u") [.unique (.columns none ["id"])]
    let first : CreateTable := ⟨"t", some [identity, key], [.temporary]⟩
    let second : CreateTable := ⟨"t", some [increment, key], [.engine (.word "MEMORY")]⟩
    checkStatement .postgresql (.createTable first) = .ok first ∧
    checkStatement .mysql (.createTable second) = .ok second ∧
    (∃ own type, identity = .column own ∧ own.type = some type) ∧
    (∃ defined rest, defineTable .start .postgresql first = .ok (defined, rest) ∧
      defined.table.IsPlain) ∧
    (∃ defined rest, defineTable .start .mysql second = .ok (defined, rest) ∧
      defined.table.increments = [true]) := by
  intro identity increment key first second
  have one : checkStatement .postgresql (.createTable first) = .ok first := rfl
  have two : checkStatement .mysql (.createTable second) = .ok second := rfl
  obtain ⟨types, -, tables⟩ := screened_definition one
  have typed := (types nofun identity List.mem_cons_self).resolve_left nofun
  obtain ⟨defined, rest, outcome, plain, -⟩ :=
    (tables .start .postgresql).resolve_left fun nameless => absurd nameless.1 (by decide +kernel)
  obtain ⟨other, left, made, -, counted⟩ :=
    ((screened_definition two).2.2 .start .mysql).resolve_left fun nameless =>
      absurd nameless.1 (by decide +kernel)
  refine ⟨one, two, typed, ⟨defined, rest, outcome, plain nofun⟩, ⟨other, left, made, ?_⟩⟩
  rw [counted nofun]
  decide +kernel

end DdlSchema.Schema
