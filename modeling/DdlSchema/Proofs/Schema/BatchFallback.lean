import DdlSchema.Proofs.Ddl.Fallback
import DdlSchema.Proofs.Schema.Parsing

/-! A batch is read by one dialect as a whole or not at all. -/

set_option autoImplicit false

namespace DdlSchema.Schema

open DdlSchema.Ddl DdlSchema.Statement

/-- What a batch comes to, where `reading` is what each dialect makes of the joined statements. -/
structure BatchOutcome (reading : Dialect → Except Problem (List CreateTable))
    (dialects : List Dialect) (alter : AlterConstraints) (selection : Option Selection)
    (result : ParseResult) : Prop where
  attempted : ∃ fallback, selection.map Selection.fallbacks = some [fallback] ∧
    fallback.attempts = tried reading dialects
  failed : ∀ attempt ∈ (tried reading dialects).dropLast, ∃ problem, attempt.2 = .error problem
  accepted : ∀ dialect, dialects.find? (accepts reading) = some dialect →
    ∃ tables, reading dialect = .ok tables ∧
      (tried reading dialects).getLast? = some (dialect, .ok tables) ∧
      ∃ chosen, selection = some chosen ∧ chosen.dialect = some dialect ∧
        chosen.definitions = tables.map (fun table => (dialect, table)) ∧ chosen.warnings = [] ∧
        result = (assemble chosen alter).result ∧ result.dialect = some dialect
  refused : (∀ dialect ∈ dialects, accepts reading dialect = false) →
    ∀ last, dialects.getLast? = some last →
      ∃ problem, (tried reading dialects).getLast? = some (last, .error problem) ∧
        result = { tables := [], foreignKeys := [], warnings := [], dialect := none,
                   errors := errorReport problem.message } ∧
        result.errors ≠ []

section

variable (read : TableReader) (dialects : List Dialect)

theorem parsePrepared_batch {prepared : Prepared} (creating : prepared.creating ≠ [])
    (alter : AlterConstraints) :
    let selection := selectBatch read dialects prepared.batch
    parsePrepared read ⟨dialects, false⟩ prepared alter =
      if selection.errors.isEmpty then
        (some selection, some (assemble selection alter), (assemble selection alter).result)
      else (some selection, none, { errors := selection.errors, warnings := [] }) := by
  simp only [parsePrepared, List.isEmpty_eq_false_iff.mpr creating, select, Bool.false_eq_true,
    if_false]
  rfl

theorem batchOutcome_parsePrepared {prepared : Prepared} (creating : prepared.creating ≠ [])
    (alter : AlterConstraints) :
    BatchOutcome (fun dialect => read dialect prepared.batch) dialects alter
      (parsePrepared read ⟨dialects, false⟩ prepared alter).1
      (parsePrepared read ⟨dialects, false⟩ prepared alter).2.2 := by
  have stages := parsePrepared_batch read dialects creating alter
  have selected : (parsePrepared read ⟨dialects, false⟩ prepared alter).1 =
      some (selectBatch read dialects prepared.batch) := by
    rw [stages]
    split <;> rfl
  refine ⟨⟨_, by rw [selected]; rfl, attempts_tryDialects _ dialects⟩,
    fun attempt member => error_of_mem_dropLast_tried member, fun dialect found => ?_,
    fun refused last final => ?_⟩
  · -- some dialect accepts the batch
    obtain ⟨tables, outcome⟩ := accepts_eq_true.mp (List.find?_some found)
    have accepted := accepted_of_find? found outcome
    have clean : (selectBatch read dialects prepared.batch).errors = [] := by
      simp only [selectBatch, Fallback.errors, accepted]
    have chosen : (selectBatch read dialects prepared.batch).dialect = some dialect := by
      simp only [selectBatch, accepted, Option.map_some]
    have result : (parsePrepared read ⟨dialects, false⟩ prepared alter).2.2 =
        (assemble (selectBatch read dialects prepared.batch) alter).result := by
      simp only [stages, clean, List.isEmpty_nil, if_true]
    refine ⟨tables, outcome, outcome ▸ getLast?_tried_of_find? found, _, selected, chosen, ?_, rfl,
      result, by rw [result, dialect_assemble, chosen]⟩
    simp only [selectBatch, Fallback.definitions, accepted]
  · -- none does, so the error of the last one is reported
    obtain ⟨problem, outcome⟩ := accepts_eq_false.mp (refused last (List.mem_of_getLast? final))
    have ended : (tried (fun dialect => read dialect prepared.batch) dialects).getLast? =
        some (last, .error problem) := by
      rw [tried_of_refused refused, List.getLast?_map, final, Option.map_some, outcome]
    have reported : (selectBatch read dialects prepared.batch).errors = errorReport problem.message :=
      errors_eq_of_refused (accepted_of_refused refused) (by rw [attempts_tryDialects, ended])
    have result : (parsePrepared read ⟨dialects, false⟩ prepared alter).2.2 =
        { errors := errorReport problem.message } := by
      have some : (errorReport problem.message).isEmpty = false := rfl
      simp only [stages, reported, some, Bool.false_eq_true, if_false]
    exact ⟨problem, ended, result, by rw [result]; exact errorReport_ne_nil problem.message⟩

/-- Whatever the readers do: the attempts are those up to the first dialect that accepts the batch.
That dialect has read all that is defined, and without it there is nothing but errors, no matter what
the altered constraints are. No list of dialects that was asked for is empty. -/
theorem batch_fails_closed :
    (∀ prepared alter, prepared.creating ≠ [] →
      BatchOutcome (fun dialect => read dialect prepared.batch) dialects alter
        (parsePrepared read ⟨dialects, false⟩ prepared alter).1
        (parsePrepared read ⟨dialects, false⟩ prepared alter).2.2) ∧
    (∀ cut script run, parseWith cut read ⟨dialects, false⟩ script = .ok run →
      run.prepared.creating ≠ [] →
      BatchOutcome (fun dialect => read dialect run.prepared.batch) dialects
        (.ofReadings run.readings) run.selection run.result) ∧
    (∀ names, resolveDialects names = .ok dialects → dialects ≠ []) := by
  refine ⟨fun prepared alter creating => batchOutcome_parsePrepared read dialects creating alter,
    fun cut script run parsed creating => ?_, fun names resolved => ne_nil_of_resolveDialects resolved⟩
  have outcome := batchOutcome_parsePrepared read dialects creating (.ofReadings run.readings)
  rwa [(stages_parseWith parsed).2.2] at outcome

end

theorem batch_fails_closed_repeated :
    let read : TableReader := fun dialect _ =>
      if dialect = .mysql then .ok [⟨"t", some [], []⟩] else .error .unexpectedEnd
    let prepared : Prepared := ⟨[.creating "CREATE TABLE t ();".toList]⟩
    let accepting : List Dialect := [.sqlite, .mysql, .mysql]
    let refusing : List Dialect := [.postgresql, .sqlite, .postgresql]
    let reading : Dialect → Except Problem (List CreateTable) :=
      fun dialect => read dialect prepared.batch
    ((tried reading accepting).map Prod.fst = [.sqlite, .mysql] ∧
      (parsePrepared read ⟨accepting, false⟩ prepared {}).2.2.dialect = some .mysql) ∧
    ((tried reading refusing).map Prod.fst = refusing ∧
      (parsePrepared read ⟨refusing, false⟩ prepared {}).2.2 =
        { errors := errorReport "Unexpected end of input" }) := by
  intro read prepared accepting refusing reading
  have creating : prepared.creating ≠ [] := by decide
  refine ⟨⟨by decide, ?_⟩, by decide, ?_⟩
  · have outcome := (batch_fails_closed read accepting).1 prepared {} creating
    obtain ⟨tables, -, -, chosen, -, -, -, -, -, dialect⟩ := outcome.accepted .mysql (by decide)
    exact dialect
  · have outcome := (batch_fails_closed read refusing).1 prepared {} creating
    obtain ⟨problem, last, result, -⟩ := outcome.refused (by decide) .postgresql (by decide)
    have said : problem = .unexpectedEnd := by
      have final : (tried reading refusing).getLast? = some (.postgresql, .error .unexpectedEnd) := rfl
      simpa using (last.symm.trans final)
    rw [result, said]
    rfl

end DdlSchema.Schema
