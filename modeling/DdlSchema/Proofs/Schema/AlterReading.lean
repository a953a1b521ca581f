import DdlSchema.Proofs.Schema.Traversal
import DdlSchema.Proofs.Text.Matching
import DdlSchema.Schema.Alter

/-! What can be read from ALTER TABLE statements. -/

set_option autoImplicit false

namespace DdlSchema.Schema

open DdlSchema.Text DdlSchema.Text.Pattern

/-! The kinds of indexes. -/

theorem IndexKind.name_of_ofName? {name : String} {kind : IndexKind}
    (found : IndexKind.ofName? name = some kind) : kind.name = name := by
  simpa using List.find?_some found

theorem labelled_index :
    Clause.index.labelled = [("kind", .either (letters "FULLTEXT") (letters "SPATIAL")),
      ("name", Clause.name), ("columns", Clause.columns)] := by
  simp [Clause.index, Clause.columnList, Clause.columns, Clause.name, Clause.spanOf, Clause.exactly,
    Clause.method, Statement.parenthesized, Pattern.optional, oneOf, oneOrMore, labelled_ofList, labelled,
    labelled_letters, gap, blanks, wordChars]

/-- No word for a kind of index is short enough to stand for UNIQUE. -/
theorem kind_of_readIndex {table : String} {clause rest : List Char} {found : Match}
    (searched : Clause.index.search clause = some (found, rest)) {reading : ClauseReading}
    (read : readIndex table found = .ok reading) :
    ∃ index : IndexClause, reading = .index index ∧ index.kind ≠ .unique := by
  unfold readIndex at read
  simp only at read
  split at read
  · cases read
  · next kind named =>
    cases read
    refine ⟨_, rfl, fun unique => ?_⟩
    have spelled := IndexKind.name_of_ofName? named
    simp only at unique
    rw [unique] at spelled
    cases written : found.get? "kind" with
    | none =>
      rw [written] at spelled
      exact absurd spelled (by decide +kernel)
    | some word =>
      obtain ⟨body, inside, first, last, reach, spans⟩ := search_captured searched written
      have body : body = .either (letters "FULLTEXT") (letters "SPATIAL") := by
        simpa [labelled_index] using inside
      subst body
      -- both words for a kind are longer than UNIQUE, and upper case makes no word shorter
      have long : 7 ≤ word.length := by
        rcases reach with fulltext | spatial
        · obtain ⟨taken, also, letters⟩ := fulltext.letters
          have same := spans.unique also
          simp [same, ← letters.length_eq]
        · obtain ⟨taken, also, letters⟩ := spatial.letters
          have same := spans.unique also
          simp [same, ← letters.length_eq]
      rw [written, Option.getD_some] at spelled
      have six := congrArg (fun text => text.toList.length) spelled
      have kept := length_le_upper word
      simp [IndexKind.name] at six
      omega

theorem kind_of_readClause {table : String} {clause : List Char} {index : IndexClause}
    (read : readClause table clause = .ok (.index index)) : index.kind ≠ .unique := by
  -- only the last of the readings is one of an index
  have increment : ∀ pattern, readIncrement table pattern clause ≠ .index index := by
    intro pattern same
    unfold readIncrement at same
    split at same <;> cases same
  unfold readClause at read
  simp only at read
  split at read
  · split at read <;> cases read
  · split at read
    · obtain ⟨keys, -, same⟩ := map_eq_ok read
      cases same
    · split at read
      · split at read <;> cases read
      · split at read
        · exact absurd (Except.ok.inj read) (increment _)
        · split at read
          · exact absurd (Except.ok.inj read) (increment _)
          · split at read
            · split at read
              · next found rest searched =>
                obtain ⟨other, same, kind⟩ := kind_of_readIndex searched read
                cases same
                exact kind
              · cases read
            · cases read

theorem kind_of_readAlterations {statements : List (List Char)} {readings : List ClauseReading}
    (read : readAlterations statements = .ok readings) {index : IndexClause}
    (member : .index index ∈ readings) : index.kind ≠ .unique := by
  obtain ⟨lists, mapped, rfl⟩ := map_eq_ok read
  obtain ⟨list, inside, member⟩ := List.mem_flatten.mp member
  obtain ⟨statement, -, same⟩ := mem_of_mapM_eq_ok mapped inside
  unfold readStatement at same
  split at same
  · cases same
    cases member
  · obtain ⟨clause, -, same⟩ := mem_of_mapM_eq_ok same member
    exact kind_of_readClause same

theorem mem_indexes_ofReadings {readings : List ClauseReading} {index : IndexClause}
    (member : index ∈ (AlterConstraints.ofReadings readings).indexes) : .index index ∈ readings := by
  have collected : ∀ (readings : List ClauseReading) (alter : AlterConstraints),
      index ∈ (readings.foldl AlterConstraints.add alter).indexes →
        index ∈ alter.indexes ∨ .index index ∈ readings := by
    intro readings
    induction readings with
    | nil => exact fun alter member => .inl member
    | cons reading rest ih =>
      intro alter member
      rcases ih (alter.add reading) member with earlier | later
      · cases reading with
        | index clause =>
          rcases List.mem_append.mp earlier with old | new
          · exact .inl old
          · rw [List.mem_singleton.mp new]
            exact .inr List.mem_cons_self
        | _ => exact .inl earlier
      · exact .inr (List.mem_cons_of_mem _ later)
  rcases collected readings {} member with nothing | read
  · cases nothing
  · exact read

end DdlSchema.Schema
