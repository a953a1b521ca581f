import DdlSchema.Proofs.Schema.ForeignKeys

/-! The cardinality of a foreign key is what the finished tables say of its column. Where and when the
key that decides it was declared leaves no trace. -/

set_option autoImplicit false

namespace DdlSchema.Schema

open DdlSchema.Ddl DdlSchema.Statement DdlSchema.Text

/-! A column of a table answers to its name, though it may be an earlier one of the same name. -/

theorem namePosition?_of_mem {names : List String} {name : String} (member : name ∈ names) :
    ∃ position, namePosition? names name = some position := by
  obtain ⟨position, found⟩ : ∃ position, names.findIdx? (· == name) = some position := by
    rw [← Option.isSome_iff_exists, List.findIdx?_isSome, List.any_eq_true]
    exact ⟨name, member, beq_self_eq_true name⟩
  exact ⟨position, by simp [namePosition?, found]⟩

theorem Table.column?_of_mem {table : Table} {column : Column} (member : column ∈ table.columns) :
    ∃ found, table.column? column.name = some found := by
  obtain ⟨position, found⟩ := namePosition?_of_mem (List.mem_map_of_mem (f := Column.name) member)
  have place : table.position? column.name = some position := found
  have bound := Table.position?_lt place
  exact ⟨table.columns[position], by simp [column?, place, bound]⟩

/-! The tables decide. -/

def Column.isKey (column : Column) : Bool := column.isUnique || column.isPrimaryKey

def Table.keyed (table : Table) : List (String × Bool) :=
  table.columns.map fun column => (column.name, column.isKey)

theorem Table.isKey_congr {table other : Table} (same : table.keyed = other.keyed) (name : String) :
    (table.column? name).map Column.isKey = (other.column? name).map Column.isKey := by
  have names : table.columns.map Column.name = other.columns.map Column.name := by
    simpa [keyed, Function.comp_def] using congrArg (List.map Prod.fst) same
  have flag : ∀ (table : Table) (place : Nat),
      table.columns[place]?.map Column.isKey = table.keyed[place]?.map Prod.snd := by
    simp [keyed, Function.comp_def]
  simp only [column?, position?, names, Option.map_bind, Function.comp_def, flag, same]

/-- Every foreign key names a table and a column of it, and is one to one exactly if that column is a
key of the table. -/
structure CardinalitiesFinal (tables : List Table) (keys : List ForeignKey) : Prop where
  distinct : (tables.map Table.name).Nodup
  decided : ∀ key ∈ keys, ∃ table ∈ tables, table.name = key.table ∧
    ∃ column, table.column? key.column = some column ∧
      (key.cardinality = .oneToOne ↔ column.isUnique = true ∨ column.isPrimaryKey = true)

theorem cardinalityOf_eq_oneToOne {table : Table} {name : String} {column : Column}
    (found : table.column? name = some column) :
    cardinalityOf (some table) name = .oneToOne ↔
      column.isUnique = true ∨ column.isPrimaryKey = true := by
  simp only [cardinalityOf, Option.bind_some, found, ← Bool.or_eq_true]
  cases column.isUnique || column.isPrimaryKey <;> simp

theorem cardinalitiesFinal_schemaOf (definitions : List (Dialect × CreateTable))
    (alter : AlterConstraints) :
    CardinalitiesFinal (schemaOf definitions alter).tables
      (schemaOf definitions alter).foreignKeys := by
  have agree := foreignKeysAgree_schemaOf definitions alter
  refine ⟨agree.distinct, fun key member => ?_⟩
  obtain ⟨table, inside, named, column, there, same, -⟩ := agree.flagged key member
  obtain ⟨found, answers⟩ := Table.column?_of_mem there
  rw [same] at answers
  refine ⟨table, inside, named, found, answers, ?_⟩
  -- the look-up by the name of the key meets this table and no other
  obtain ⟨position, here⟩ := List.mem_iff_getElem?.mp inside
  have exact := exactTable?_own agree.distinct here
  obtain ⟨before, rfl⟩ : ∃ before : ForeignKey,
      withCardinality (schemaOf definitions alter).tables before = key := by
    simp only [schemaOf, merge_eq, List.mem_map] at member
    obtain ⟨before, -, filled⟩ := member
    exact ⟨before, by simpa only [schemaOf, merge_eq] using filled⟩
  have owner : table.name = before.table := named
  rw [owner] at exact
  simp only [withCardinality, exact, Option.bind_some, here]
  exact cardinalityOf_eq_oneToOne answers

theorem CardinalitiesFinal.isKey {tables : List Table} {keys : List ForeignKey}
    (final : CardinalitiesFinal tables keys) {key : ForeignKey} (member : key ∈ keys) :
    ∃ table ∈ tables, table.name = key.table ∧
      (table.column? key.column).map Column.isKey = some (key.cardinality == .oneToOne) := by
  obtain ⟨table, inside, named, column, found, one⟩ := final.decided key member
  refine ⟨table, inside, named, ?_⟩
  rw [found, Option.map_some, Option.some_inj, Bool.eq_iff_iff, beq_iff_eq, one, Column.isKey,
    Bool.or_eq_true]

/-- The results whose cardinalities are compared. -/
def IsResult (result : ParseResult) : Prop :=
  ∃ cut read options script run, parseWith cut read options script = .ok run ∧ run.result = result

theorem cardinalitiesFinal_of_isResult {result : ParseResult} (parsed : IsResult result) :
    CardinalitiesFinal result.tables result.foreignKeys := by
  obtain ⟨cut, read, options, script, run, outcome, rfl⟩ := parsed
  rw [parseWith_eq_ok outcome]
  exact parsePrepared_holds CardinalitiesFinal ⟨List.nodup_nil, fun _ member => nomatch member⟩
    (fun definitions => cardinalitiesFinal_schemaOf definitions _) read options run.prepared

/-- In every result the finished tables decide the cardinality of every foreign key, and two scripts
whose tables come out with the same keys give it the same cardinality: neither the place nor the order
of the declarations counts. -/
theorem cardinality_final :
    (∀ result, IsResult result → CardinalitiesFinal result.tables result.foreignKeys) ∧
    (∀ first second, IsResult first → IsResult second →
      (∀ table ∈ first.tables, ∀ other ∈ second.tables, table.name = other.name →
        table.keyed = other.keyed) →
      ∀ key ∈ first.foreignKeys, ∀ other ∈ second.foreignKeys,
        key.table = other.table → key.column = other.column →
          key.cardinality = other.cardinality) := by
  refine ⟨fun result parsed => cardinalitiesFinal_of_isResult parsed,
    fun first second parsed later same key member other inside owner named => ?_⟩
  obtain ⟨table, here, owned, flag⟩ := (cardinalitiesFinal_of_isResult parsed).isKey member
  obtain ⟨twin, there, twinned, decides⟩ := (cardinalitiesFinal_of_isResult later).isKey inside
  have flags := Table.isKey_congr
    (same table here twin there (owned.trans (owner.trans twinned.symm))) key.column
  rw [flag, named, decides, Option.some_inj] at flags
  -- a cardinality that is not one to one is the other one
  revert flags
  cases key.cardinality <;> cases other.cardinality <;> decide

theorem cardinality_final_unique :
    let column : Element := .column ⟨⟨"a", false⟩, none, [⟨none, .reference ⟨"u", [], []⟩⟩]⟩
    let unique : Element := .constraint (.unique (.columns none ["A"]))
    let read : TableReader := fun _ batch =>
      .ok [⟨"t", some (if batch.contains 'Q' then [unique, column] else [column]), []⟩]
    ∃ inline altered,
      parseWith split read ⟨[.mysql], false⟩ "CREATE TABLE t (UNIQUE (A), a REFERENCES u)".toList =
        .ok inline ∧
      parseWith split read ⟨[.mysql], false⟩
        "CREATE TABLE t (a REFERENCES u); ALTER TABLE T ADD CONSTRAINT k UNIQUE (a);".toList =
        .ok altered ∧
      inline.result.foreignKeys ≠ [] ∧ inline.result.tables ≠ altered.result.tables ∧
      CardinalitiesFinal inline.result.tables inline.result.foreignKeys ∧
      ∀ key ∈ inline.result.foreignKeys, ∀ other ∈ altered.result.foreignKeys,
        key.table = other.table → key.column = other.column →
          key.cardinality = other.cardinality := by
  intro column unique read
  have parsed : (match parseWith split read ⟨[.mysql], false⟩
        "CREATE TABLE t (UNIQUE (A), a REFERENCES u)".toList with
      | .ok inline => match parseWith split read ⟨[.mysql], false⟩
          "CREATE TABLE t (a REFERENCES u); ALTER TABLE T ADD CONSTRAINT k UNIQUE (a);".toList with
        | .ok altered => decide (inline.result.foreignKeys ≠ [] ∧
            inline.result.tables ≠ altered.result.tables ∧
            ∀ table ∈ inline.result.tables, ∀ other ∈ altered.result.tables,
              table.name = other.name → table.keyed = other.keyed)
        | .error _ => false
      | .error _ => false) = true := by
    decide +kernel
  split at parsed
  · next inline outcome =>
    split at parsed
    · next altered later =>
      obtain ⟨listed, apart, same⟩ := of_decide_eq_true parsed
      have first : IsResult inline.result := ⟨split, read, _, _, inline, outcome, rfl⟩
      have second : IsResult altered.result := ⟨split, read, _, _, altered, later, rfl⟩
      exact ⟨inline, altered, outcome, later, listed, apart, cardinality_final.1 _ first,
        cardinality_final.2 _ _ first second same⟩
    · cases parsed
  · cases parsed

end DdlSchema.Schema
