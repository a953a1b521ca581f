import Mathlib.Data.List.MinMax
import DdlSchema.Proofs.Ddl.Fallback
import DdlSchema.Proofs.Schema.Messages

/-! Statements that are read on their own do not disturb each other: one that no dialect accepts leaves
its message and nothing else. -/

set_option autoImplicit false

namespace DdlSchema.Schema

open DdlSchema.Ddl DdlSchema.Statement

/-! The dialect that read the most statements. -/

structure IsMostFrequent (dialects : List Dialect) (dialect : Dialect) : Prop where
  member : dialect ∈ dialects
  most : ∀ other, dialects.count other ≤ dialects.count dialect
  earliest : ∀ other, dialects.count other = dialects.count dialect →
    dialects.idxOf dialect ≤ dialects.idxOf other

theorem isMostFrequent_of_eq_some {dialects : List Dialect} {dialect : Dialect}
    (found : mostFrequent dialects = some dialect) : IsMostFrequent dialects dialect := by
  obtain ⟨fits, front, back, rfl, passed⟩ := List.find?_eq_some_iff_append.mp found
  have most : ∀ other ∈ front ++ dialect :: back,
      (front ++ dialect :: back).count other ≤ (front ++ dialect :: back).count dialect :=
    fun other member => of_decide_eq_true (List.all_eq_true.mp fits other member)
  refine ⟨List.mem_append_right _ List.mem_cons_self, fun other => ?_, fun other equal => ?_⟩
  · by_cases member : other ∈ front ++ dialect :: back
    · exact most other member
    · rw [List.count_eq_zero_of_not_mem member]
      exact Nat.zero_le _
  · -- another one in front of it that stands as often would have been found instead
    have behind : ∀ candidate, (front ++ dialect :: back).count candidate =
        (front ++ dialect :: back).count dialect → candidate ∉ front := by
      intro candidate equal inside
      have refused := passed candidate inside
      simp only [Bool.not_eq_true', List.all_eq_false] at refused
      obtain ⟨rival, member, more⟩ := refused
      have less := most rival member
      rw [← equal] at less
      exact more (by simpa using less)
    rw [List.idxOf_append_of_notMem (behind dialect rfl), List.idxOf_append_of_notMem (behind other equal),
      List.idxOf_cons_self]
    exact Nat.le_add_right _ _

theorem mostFrequent_isSome {dialects : List Dialect} (nonempty : dialects ≠ []) :
    ∃ dialect, mostFrequent dialects = some dialect := by
  cases best : dialects.argmax dialects.count with
  | none => exact absurd (List.argmax_eq_none.mp best) nonempty
  | some dialect =>
    rw [← Option.isSome_iff_exists, mostFrequent, List.find?_isSome]
    refine ⟨dialect, List.argmax_mem best, List.all_eq_true.mpr fun other member => ?_⟩
    exact decide_eq_true (List.le_of_mem_argmax member best)

/-! Selections. -/

section

variable (read : TableReader) (dialects : List Dialect)

def statementFallback (statement : List Char) : Fallback :=
  tryDialects (fun dialect => read dialect statement) dialects

/-- The dialect that reads the statement. -/
def reader? (statement : List Char) : Option Dialect :=
  dialects.find? (accepts fun dialect => read dialect statement)

/-- No dialect accepts the statement. -/
def IsRejected (statement : List Char) : Prop :=
  ∀ dialect ∈ dialects, ∃ problem, read dialect statement = .error problem

/-- The statement is accepted, and a table is defined by it. -/
def DefinesTable (statement : List Char) : Prop :=
  ∃ dialect definition others, reader? read dialects statement = some dialect ∧
    read dialect statement = .ok (definition :: others)

/-- What is said of a statement that no dialect accepts. -/
def skippedWarning (statement : List Char) : Warning :=
  .skippedStatement (String.ofList statement) ((statementFallback read dialects statement).errors.headD "")

variable {read dialects}

theorem IsRejected.accepted {statement : List Char} (rejected : IsRejected read dialects statement) :
    (statementFallback read dialects statement).accepted = none :=
  accepted_of_refused fun dialect member => accepts_eq_false.mpr (rejected dialect member)

theorem fst_accepted (statement : List Char) :
    (statementFallback read dialects statement).accepted.map Prod.fst = reader? read dialects statement := by
  cases found : reader? read dialects statement with
  | some dialect =>
    obtain ⟨tables, outcome⟩ := accepts_eq_true.mp (List.find?_some found)
    rw [statementFallback, accepted_of_find? found outcome, Option.map_some]
  | none =>
    have refused : ∀ dialect ∈ dialects, accepts (fun dialect => read dialect statement) dialect = false := by
      simpa using List.find?_eq_none.mp found
    rw [statementFallback, accepted_of_refused refused, Option.map_none]

theorem message_skippedWarning {statement : List Char} (rejected : IsRejected read dialects statement)
    {last : Dialect} (final : dialects.getLast? = some last) :
    ∃ problem, read last statement = .error problem ∧
      (skippedWarning read dialects statement).message = "Skipped statement: " ++
        shorten (String.ofList statement) ++ " (" ++ ("SQL Parse Error: " ++ problem.message) ++ ")" := by
  obtain ⟨problem, outcome⟩ := rejected last (List.mem_of_getLast? final)
  have ended : (statementFallback read dialects statement).attempts.getLast? =
      some (last, .error problem) := by
    rw [statementFallback, attempts_tryDialects,
      tried_of_refused fun dialect member => accepts_eq_false.mpr (rejected dialect member),
      List.getLast?_map, final, Option.map_some, outcome]
  refine ⟨problem, outcome, ?_⟩
  rw [skippedWarning, errors_eq_of_refused rejected.accepted ended]
  rfl

theorem definitions_selectIsolated (statements : List (List Char)) :
    (selectIsolated read dialects statements).definitions =
      statements.flatMap fun statement => (statementFallback read dialects statement).definitions := by
  simp only [selectIsolated, List.flatMap_map]
  rfl

theorem warnings_selectIsolated (statements : List (List Char)) :
    (selectIsolated read dialects statements).warnings = statements.filterMap fun statement =>
      skippedWarning? statement (statementFallback read dialects statement) := by
  simp only [selectIsolated, List.zipWith_map_right, List.zipWith_self, List.filterMap_map]
  rfl

theorem warnings_append (before after : List (List Char)) :
    (selectIsolated read dialects (before ++ after)).warnings =
      (selectIsolated read dialects before).warnings ++ (selectIsolated read dialects after).warnings := by
  simp only [warnings_selectIsolated, List.filterMap_append]

/-- The messages that skipped statements leave, each where it is first said. -/
def skippedMessages (read : TableReader) (dialects : List Dialect) (statements : List (List Char)) :
    List String :=
  messages ((statements.filter fun statement => (reader? read dialects statement).isNone).map
    (skippedWarning read dialects))

theorem messages_selectIsolated (statements : List (List Char)) :
    messages (selectIsolated read dialects statements).warnings =
      skippedMessages read dialects statements := by
  rw [warnings_selectIsolated, skippedMessages, ← List.filterMap_eq_map, List.filterMap_filter]
  congr 1
  refine List.filterMap_congr fun statement _ => ?_
  rw [← fst_accepted, skippedWarning?]
  cases accepted : (statementFallback read dialects statement).accepted with
  | none => rfl
  | some reading => rfl

theorem skippedWarning?_of_rejected {statement : List Char} (rejected : IsRejected read dialects statement) :
    skippedWarning? statement (statementFallback read dialects statement) =
      some (skippedWarning read dialects statement) := by
  simp only [skippedWarning?, rejected.accepted, skippedWarning]

def readers (read : TableReader) (dialects : List Dialect) (statements : List (List Char)) :
    List Dialect :=
  statements.filterMap (reader? read dialects)

theorem definitions_ne_nil {statements : List (List Char)} {statement : List Char}
    (member : statement ∈ statements) (defines : DefinesTable read dialects statement) :
    (selectIsolated read dialects statements).definitions ≠ [] := by
  obtain ⟨dialect, definition, others, found, outcome⟩ := defines
  have accepted : (statementFallback read dialects statement).accepted =
      some (dialect, definition :: others) :=
    accepted_of_find? found outcome
  rw [definitions_selectIsolated]
  refine List.ne_nil_of_mem (a := (dialect, definition)) (List.mem_flatMap.mpr ⟨statement, member, ?_⟩)
  rw [Fallback.definitions, accepted]
  exact List.mem_cons_self

theorem dialect_selectIsolated {statements : List (List Char)}
    (defined : (selectIsolated read dialects statements).definitions ≠ []) :
    (selectIsolated read dialects statements).dialect =
      mostFrequent (readers read dialects statements) := by
  have listed : (selectIsolated read dialects statements).dialect =
      if (selectIsolated read dialects statements).definitions.isEmpty then none
      else mostFrequent ((statements.map (statementFallback read dialects)).filterMap
        fun result => result.accepted.map Prod.fst) :=
    rfl
  have asked : ((fun result => result.accepted.map Prod.fst) ∘ statementFallback read dialects) =
      reader? read dialects :=
    funext fst_accepted
  rw [listed, List.isEmpty_eq_false_iff.mpr defined, List.filterMap_map, asked]
  rfl

theorem errors_selectIsolated {statements : List (List Char)}
    (defined : (selectIsolated read dialects statements).definitions ≠ []) :
    (selectIsolated read dialects statements).errors = [] := by
  have listed : (selectIsolated read dialects statements).errors =
      if (selectIsolated read dialects statements).definitions.isEmpty then
        (((statements.map (statementFallback read dialects)).filter
          fun result => result.accepted.isNone).getLast?.map Fallback.errors).getD []
      else [] :=
    rfl
  rw [listed, List.isEmpty_eq_false_iff.mpr defined]
  rfl

end

/-! One rejected statement among others. -/

section

variable {read : TableReader} {dialects : List Dialect} {rejected : List Char}
  (refused : IsRejected read dialects rejected) (before after : List (List Char))

include refused

theorem definitions_inserted :
    (selectIsolated read dialects (before ++ rejected :: after)).definitions =
      (selectIsolated read dialects (before ++ after)).definitions := by
  have nothing : (statementFallback read dialects rejected).definitions = [] := by
    rw [Fallback.definitions, refused.accepted]
  simp only [definitions_selectIsolated, List.flatMap_append, List.flatMap_cons, nothing, List.nil_append]

theorem readers_inserted :
    readers read dialects (before ++ rejected :: after) = readers read dialects (before ++ after) := by
  have unread : reader? read dialects rejected = none := by
    rw [← fst_accepted, refused.accepted, Option.map_none]
  simp only [readers, List.filterMap_append, List.filterMap_cons, unread]

theorem warnings_inserted :
    (selectIsolated read dialects (before ++ rejected :: after)).warnings =
      (selectIsolated read dialects before).warnings ++
        skippedWarning read dialects rejected :: (selectIsolated read dialects after).warnings := by
  simp only [warnings_selectIsolated, List.filterMap_append, List.filterMap_cons,
    skippedWarning?_of_rejected refused]

end

theorem result_assemble (selection : Selection) (alter : AlterConstraints) :
    ∃ said, ∀ other : Selection, other.definitions = selection.definitions →
      other.dialect = selection.dialect →
      (assemble other alter).result =
        { (assemble selection alter).result with warnings := messages (other.warnings ++ said) } := by
  rcases made : defineTables .start selection.definitions with ⟨outcomes, ids⟩
  by_cases failed : (collect outcomes).tables.isEmpty &&
      !((collect outcomes).errors.map definitionError).isEmpty
  · refine ⟨(collect outcomes).warnings, fun other same dialect => ?_⟩
    simp only [assemble, same, dialect, made, failed, if_true]
  · refine ⟨(collect outcomes).warnings ++
      (merge (collect outcomes).tables (collect outcomes).foreignKeys alter ids).warnings,
      fun other same dialect => ?_⟩
    simp only [assemble, same, dialect, made, failed, if_false, Bool.false_eq_true, List.append_assoc]

/-- What a rejected statement does to the result of the others, which stand before and after it. -/
structure Isolated (read : TableReader) (dialects : List Dialect) (before : List (List Char))
    (rejected : List Char) (after : List (List Char)) (earlier later : ParseResult) : Prop where
  tables : later.tables = earlier.tables
  foreignKeys : later.foreignKeys = earlier.foreignKeys
  errors : later.errors = earlier.errors
  dialect : later.dialect = earlier.dialect
  warnings : AddsMessage (skippedWarning read dialects rejected).message
    (skippedMessages read dialects before) earlier.warnings later.warnings
  voted : ∃ dialect, earlier.dialect = some dialect ∧
    IsMostFrequent (readers read dialects (before ++ after)) dialect

section

variable {read : TableReader} {dialects : List Dialect}

theorem parsePrepared_isolated {prepared : Prepared} (alter : AlterConstraints)
    (defined : (selectIsolated read dialects prepared.creating).definitions ≠ []) :
    (parsePrepared read ⟨dialects, true⟩ prepared alter).2.2 =
      (assemble (selectIsolated read dialects prepared.creating) alter).result := by
  have creating : prepared.creating ≠ [] := by
    intro nothing
    rw [nothing] at defined
    exact defined rfl
  simp only [parsePrepared, List.isEmpty_eq_false_iff.mpr creating, select, errors_selectIsolated defined,
    List.isEmpty_nil, if_true, if_false, Bool.false_eq_true]

theorem isolated_assemble {rejected : List Char} (refused : IsRejected read dialects rejected)
    {before after : List (List Char)} {statement : List Char} (member : statement ∈ before ++ after)
    (defines : DefinesTable read dialects statement) (alter : AlterConstraints) :
    Isolated read dialects before rejected after
      (assemble (selectIsolated read dialects (before ++ after)) alter).result
      (assemble (selectIsolated read dialects (before ++ rejected :: after)) alter).result := by
  have defined := definitions_ne_nil member defines
  have definitions := definitions_inserted refused before after
  have voted := dialect_selectIsolated defined
  have dialect : (selectIsolated read dialects (before ++ rejected :: after)).dialect =
      (selectIsolated read dialects (before ++ after)).dialect := by
    rw [voted, dialect_selectIsolated (by rwa [definitions]), readers_inserted refused]
  obtain ⟨said, results⟩ := result_assemble (selectIsolated read dialects (before ++ after)) alter
  have later := results _ definitions dialect
  have earlier := congrArg ParseResult.warnings (results _ rfl rfl)
  simp only [warnings_append, List.append_assoc] at earlier
  rw [warnings_inserted refused, List.append_assoc, List.cons_append] at later
  refine ⟨by rw [later], by rw [later], by rw [later], by rw [later], ?_, ?_⟩
  · rw [later, earlier, ← messages_selectIsolated]
    exact addsMessage_messages _ _ _
  · obtain ⟨dialect, -, -, chosen, -⟩ := defines
    have some : readers read dialects (before ++ after) ≠ [] :=
      List.ne_nil_of_mem (List.mem_filterMap.mpr ⟨statement, member, chosen⟩)
    obtain ⟨winner, found⟩ := mostFrequent_isSome some
    refine ⟨winner, ?_, isMostFrequent_of_eq_some found⟩
    rw [dialect_assemble, voted, found]

/-- Among statements of which one defines a table, a statement that no dialect accepts may be put
anywhere: the result stays as it is but for the message of that statement. It is given once, at the place of
the first statement that leaves it. The dialect is the one that read most statements, the first of these on a
tie. Scripts that prepare to such statements and alter the same constraints have such results. -/
theorem rejected_statement_isolated (rejected : List Char) (refused : IsRejected read dialects rejected)
    (before after : List (List Char))
    (defined : ∃ statement ∈ before ++ after, DefinesTable read dialects statement) :
    (∀ prepared inserted : Prepared, ∀ alter : AlterConstraints, prepared.creating = before ++ after →
      inserted.creating = before ++ rejected :: after →
        Isolated read dialects before rejected after
          (parsePrepared read ⟨dialects, true⟩ prepared alter).2.2
          (parsePrepared read ⟨dialects, true⟩ inserted alter).2.2) ∧
    (∀ cut script longer run later, parseWith cut read ⟨dialects, true⟩ script = .ok run →
      parseWith cut read ⟨dialects, true⟩ longer = .ok later →
      AlterConstraints.ofReadings later.readings = .ofReadings run.readings →
      run.prepared.creating = before ++ after →
      later.prepared.creating = before ++ rejected :: after →
        Isolated read dialects before rejected after run.result later.result) ∧
    ∀ last, dialects.getLast? = some last → ∃ problem, read last rejected = .error problem ∧
      (skippedWarning read dialects rejected).message = "Skipped statement: " ++
        shorten (String.ofList rejected) ++ " (" ++ ("SQL Parse Error: " ++ problem.message) ++ ")" := by
  obtain ⟨statement, member, defines⟩ := defined
  have prepared : ∀ prepared inserted : Prepared, ∀ alter : AlterConstraints,
      prepared.creating = before ++ after → inserted.creating = before ++ rejected :: after →
        Isolated read dialects before rejected after
          (parsePrepared read ⟨dialects, true⟩ prepared alter).2.2
          (parsePrepared read ⟨dialects, true⟩ inserted alter).2.2 := by
    intro prepared inserted alter without within
    have first := definitions_ne_nil member defines
    have second := first
    rw [← definitions_inserted refused] at second
    rw [parsePrepared_isolated alter (by rwa [without]), parsePrepared_isolated alter (by rwa [within]),
      without, within]
    exact isolated_assemble refused member defines alter
  refine ⟨prepared, fun cut script longer run later parsed read same without within => ?_,
    fun last final => message_skippedWarning refused final⟩
  rw [parseWith_eq_ok parsed, parseWith_eq_ok read, same]
  exact prepared _ _ _ without within

end

theorem rejected_statement_isolated_front :
    let column : Element := .column ⟨⟨"id", false⟩, none, []⟩
    let read : TableReader := fun dialect statement =>
      if statement.contains 'x' || dialect == .postgresql then .error .unexpectedEnd
      else .ok [⟨"t", some [column], []⟩]
    let dialects : List Dialect := [.postgresql, .mysql]
    let rejected := "CREATE TABLE x (a);".toList
    let after := ["CREATE TABLE m (a);".toList]
    IsRejected read dialects rejected ∧ (∃ statement ∈ [] ++ after, DefinesTable read dialects statement) ∧
    ∃ run later,
      parseWith split read ⟨dialects, true⟩ "CREATE TABLE m (a)".toList = .ok run ∧
      parseWith split read ⟨dialects, true⟩ "CREATE TABLE x (a); CREATE TABLE m (a)".toList = .ok later ∧
      run.result.dialect = some .mysql ∧ later.result.warnings =
        ["Skipped statement: CREATE TABLE x (a); (SQL Parse Error: Unexpected end of input)"] ∧
      Isolated read dialects [] rejected after run.result later.result := by
  intro column read dialects rejected after
  have refused : IsRejected read dialects rejected := fun dialect _ => ⟨.unexpectedEnd, rfl⟩
  have defined : ∃ statement ∈ [] ++ after, DefinesTable read dialects statement :=
    ⟨_, List.mem_cons_self, .mysql, _, [], by decide, rfl⟩
  have parsed : (match parseWith split read ⟨dialects, true⟩ "CREATE TABLE m (a)".toList with
      | .ok run => match parseWith split read ⟨dialects, true⟩
          "CREATE TABLE x (a); CREATE TABLE m (a)".toList with
        | .ok later => decide (AlterConstraints.ofReadings later.readings = .ofReadings run.readings ∧
            run.prepared.creating = [] ++ after ∧ later.prepared.creating = [] ++ rejected :: after ∧
            run.result.dialect = some .mysql ∧ later.result.warnings =
              ["Skipped statement: CREATE TABLE x (a); (SQL Parse Error: Unexpected end of input)"])
        | .error _ => false
      | .error _ => false) = true := by
    decide +kernel
  split at parsed
  · next run outcome =>
    split at parsed
    · next later outcome' =>
      obtain ⟨same, without, within, dialect, said⟩ := of_decide_eq_true parsed
      exact ⟨refused, defined, run, later, outcome, outcome', dialect, said,
        (rejected_statement_isolated rejected refused [] after defined).2.1 _ _ _ run later outcome
          outcome' same without within⟩
    · cases parsed
  · cases parsed

/-- A message that only a later statement gives already is given further in front from then on. -/
theorem inserted_message_can_move :
    ¬ ∀ (read : TableReader) (dialects : List Dialect) (rejected : List Char)
      (before after : List (List Char)) (prepared inserted : Prepared) (alter : AlterConstraints),
      IsRejected read dialects rejected →
      (∃ statement ∈ before ++ after, DefinesTable read dialects statement) →
      prepared.creating = before ++ after → inserted.creating = before ++ rejected :: after →
      (skippedWarning read dialects rejected).message ∈
        (parsePrepared read ⟨dialects, true⟩ prepared alter).2.2.warnings →
      (parsePrepared read ⟨dialects, true⟩ inserted alter).2.2.warnings =
        (parsePrepared read ⟨dialects, true⟩ prepared alter).2.2.warnings := by
  intro unchanged
  let column : Element := .column ⟨⟨"id", false⟩, none, []⟩
  let read : TableReader := fun _ statement =>
    if statement.contains 'x' then .error .unexpectedEnd else .ok [⟨"t", some [column], []⟩]
  let rejected := "CREATE TABLE x (a);".toList
  let after := ["CREATE TABLE y (x);".toList, rejected, "CREATE TABLE t (a);".toList]
  have defined : ∃ statement ∈ [] ++ after, DefinesTable read [.mysql] statement :=
    ⟨"CREATE TABLE t (a);".toList, by decide, .mysql, _, [], by decide, rfl⟩
  have same := unchanged read [.mysql] rejected [] after ⟨after.map .creating⟩
    ⟨(rejected :: after).map .creating⟩ {} (fun dialect _ => ⟨.unexpectedEnd, rfl⟩) defined rfl rfl
    (by decide +kernel)
  revert same
  decide +kernel

end DdlSchema.Schema
