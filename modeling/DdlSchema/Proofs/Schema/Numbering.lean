import DdlSchema.Proofs.Schema.Parsing

/-! The ids of columns and indexes. Every id is drawn once, so the ids of a schema are a stretch of the
numbers of one counter, and no two of them are equal. -/

set_option autoImplicit false

namespace DdlSchema.Schema

open DdlSchema.Ddl

namespace IdCounter

/-- How many ids of this stem are drawn. -/
def count (ids : IdCounter) (stem : String) : Nat := (ids.counts.lookup stem).getD 0

/-- The id with this number. -/
def numbered (stem : String) (number : Nat) : String := stem ++ "_" ++ toString number

/-- An id is told from its last underscore on: the number behind it, the stem in front of it. -/
theorem numbered_inj {stem other : String} {number count : Nat} :
    numbered stem number = numbered other count ↔ stem = other ∧ number = count := by
  have text : ∀ stem number,
      (numbered stem number).toList = stem.toList ++ '_' :: Nat.toDigits 10 number := by
    intro stem number
    simp [numbered, Nat.toString_eq_repr, Nat.toList_repr]
  have behind : ∀ stem number, (numbered stem number).toList.reverse.takeWhile (· != '_') =
      (Nat.toDigits 10 number).reverse := by
    intro stem number
    have digits : ∀ c ∈ (Nat.toDigits 10 number).reverse, (c != '_') = true := by
      intro c member
      have digit := Nat.isDigit_of_mem_toDigits (by decide) (by decide) (List.mem_reverse.mp member)
      refine bne_iff_ne.mpr fun same => ?_
      rw [same] at digit
      cases digit
    simp [text, List.takeWhile_append_of_pos digits]
  constructor
  · intro same
    have digits : Nat.toDigits 10 number = Nat.toDigits 10 count :=
      List.reverse_inj.mp (by rw [← behind stem, same, behind])
    have stems := congrArg String.toList same
    rw [text, text, digits] at stems
    -- digits are read back as the number they stand for
    exact ⟨String.toList_inj.mp (List.append_cancel_right stems),
      by simpa using congrArg (Nat.ofDigitChars 10 · 0) digits⟩
  · rintro ⟨rfl, rfl⟩
    rfl

theorem fst_next (ids : IdCounter) (stem : String) :
    (ids.next stem).1 = numbered stem (ids.count stem + 1) :=
  rfl

theorem lookup_filter_ne (counts : List (String × Nat)) {stem other : String} (apart : other ≠ stem) :
    (counts.filter fun entry => entry.1 != stem).lookup other = counts.lookup other := by
  induction counts with
  | nil => rfl
  | cons entry rest ih =>
    obtain ⟨key, number⟩ := entry
    by_cases same : key = stem
    · have unequal : (other == key) = false := by simpa [same] using apart
      simp [same, List.lookup_cons, ih, same ▸ unequal]
    · by_cases found : other == key <;> simp [same, List.lookup_cons, found, ih]

theorem count_next (ids : IdCounter) (stem other : String) :
    (ids.next stem).2.count other = if other = stem then ids.count stem + 1 else ids.count other := by
  simp only [next, count, List.lookup_cons]
  by_cases same : other = stem
  · simp [same]
  · rw [if_neg same, beq_false_of_ne same]
    simp only [lookup_filter_ne _ same]

theorem count_le_next (ids : IdCounter) (stem other : String) :
    ids.count other ≤ (ids.next stem).2.count other := by
  rw [count_next]
  split
  · next same =>
    rw [same]
    exact Nat.le_succ _
  · exact Nat.le_refl _

/-- The ids drawn one after the other under these stems. -/
def drawAll : IdCounter → List String → List String
  | _, [] => []
  | ids, stem :: rest => (ids.next stem).1 :: (ids.next stem).2.drawAll rest

theorem mem_drawAll {ids : IdCounter} {stems : List String} {id : String}
    (member : id ∈ ids.drawAll stems) :
    ∃ stem number, ids.count stem < number ∧ id = numbered stem number := by
  induction stems generalizing ids with
  | nil => cases member
  | cons stem rest ih =>
    rcases List.mem_cons.mp member with rfl | later
    · exact ⟨stem, ids.count stem + 1, Nat.lt_succ_self _, ids.fst_next stem⟩
    · obtain ⟨other, number, above, same⟩ := ih later
      exact ⟨other, number, Nat.lt_of_le_of_lt (ids.count_le_next stem other) above, same⟩

/-- No id is drawn twice, under one stem or under two. -/
theorem nodup_drawAll (ids : IdCounter) (stems : List String) : (ids.drawAll stems).Nodup := by
  induction stems generalizing ids with
  | nil => exact List.nodup_nil
  | cons stem rest ih =>
    refine List.nodup_cons.mpr ⟨fun member => ?_, ih _⟩
    obtain ⟨other, number, above, same⟩ := mem_drawAll member
    obtain ⟨rfl, rfl⟩ := numbered_inj.mp (ids.fst_next stem ▸ same)
    -- the count of the stem has already reached the number of its first id
    rw [count_next, if_pos rfl] at above
    exact Nat.lt_irrefl _ above

/-- The ids that are drawn between two counters. -/
def drawn (stem : String) (before after : IdCounter) : List String :=
  (List.range' (before.count stem + 1) (after.count stem - before.count stem)).map (numbered stem)

variable {stem : String}

theorem drawn_append {first second third : IdCounter} (earlier : first.count stem ≤ second.count stem)
    (later : second.count stem ≤ third.count stem) :
    drawn stem first second ++ drawn stem second third = drawn stem first third := by
  have start : second.count stem + 1 = first.count stem + 1 + (second.count stem - first.count stem) := by
    omega
  rw [drawn, drawn, ← List.map_append, start, List.range'_append_1]
  simp only [drawn]
  congr 2
  omega

theorem drawn_self (ids : IdCounter) : drawn stem ids ids = [] := by simp [drawn]

theorem drawn_next (ids : IdCounter) : drawn stem ids (ids.next stem).2 = [(ids.next stem).1] := by
  rw [fst_next, drawn, count_next, if_pos rfl, Nat.add_sub_cancel_left]
  rfl

theorem nodup_drawn (before after : IdCounter) : (drawn stem before after).Nodup :=
  List.Pairwise.map _ (fun _ _ apart same => apart (numbered_inj.mp same).2) (List.nodup_range' 1)

end IdCounter

/-! The ids of indexes. -/

def Table.indexIds (table : Table) : List String := table.indexes.map Index.id

namespace Change

variable (table : Table) (ids : IdCounter)

theorem snd_apply (change : Change) : (apply (table, ids) change).2 =
    if (change.newIndex? table).isSome then (ids.next "idx").2 else ids := by
  rw [apply_eq]
  cases change.newIndex? table <;> rfl

/-- A change draws ids for indexes and for nothing else. -/
theorem count_apply (change : Change) {stem : String} (other : stem ≠ "idx") :
    (apply (table, ids) change).2.count stem = ids.count stem := by
  rw [snd_apply]
  split
  · rw [IdCounter.count_next, if_neg other]
  · rfl

theorem count_apply_le (change : Change) (stem : String) :
    ids.count stem ≤ (apply (table, ids) change).2.count stem := by
  rw [snd_apply]
  split
  · exact ids.count_le_next "idx" stem
  · exact Nat.le_refl _

theorem indexIds_apply (change : Change) : (apply (table, ids) change).1.indexIds =
    table.indexIds ++ IdCounter.drawn "idx" ids (apply (table, ids) change).2 := by
  rw [apply_eq]
  cases change.newIndex? table with
  | none => simp [IdCounter.drawn_self, Table.indexIds, Table.mark]
  | some index => simp [IdCounter.drawn_next, Table.indexIds, Table.mark, Index.withId]

theorem count_applyAll (changes : List Change) {stem : String} (other : stem ≠ "idx") :
    (applyAll (table, ids) changes).2.count stem = ids.count stem := by
  induction changes generalizing table ids with
  | nil => rfl
  | cons change rest ih => rw [applyAll_cons, ih, count_apply _ _ _ other]

theorem count_applyAll_le (changes : List Change) (stem : String) :
    ids.count stem ≤ (applyAll (table, ids) changes).2.count stem := by
  induction changes generalizing table ids with
  | nil => exact Nat.le_refl _
  | cons change rest ih => exact Nat.le_trans (count_apply_le table ids change stem) (ih _ _)

theorem indexIds_applyAll (changes : List Change) : (applyAll (table, ids) changes).1.indexIds =
    table.indexIds ++ IdCounter.drawn "idx" ids (applyAll (table, ids) changes).2 := by
  induction changes generalizing table ids with
  | nil => simp [IdCounter.drawn_self]
  | cons change rest ih =>
    rw [applyAll_cons, ih, indexIds_apply, List.append_assoc,
      IdCounter.drawn_append (count_apply_le table ids change _) (count_applyAll_le _ _ rest _)]

end Change

/-! The ids of columns. -/

def Table.columnIds (table : Table) : List String := table.columns.map Column.id

theorem Table.columnIds_of_outline {table other : Table} (same : table.outline = other.outline) :
    table.columnIds = other.columnIds := by
  simpa [outline, Column.outline, columnIds, Function.comp_def] using
    congrArg (fun outline => outline.2.map Prod.fst) same

section

variable (table : String) (dialect : Dialect) (ids : IdCounter)
  (parts : List (String × Option DataType × List ColumnConstraint))

theorem count_defineColumns {stem : String} (other : stem ≠ "col") :
    (defineColumns table dialect ids parts).2.count stem = ids.count stem := by
  induction parts generalizing ids with
  | nil => rfl
  | cons part rest ih =>
    simp only [defineColumns, ih]
    rw [IdCounter.count_next, if_neg other]

theorem count_defineColumns_le (stem : String) :
    ids.count stem ≤ (defineColumns table dialect ids parts).2.count stem := by
  induction parts generalizing ids with
  | nil => exact Nat.le_refl _
  | cons part rest ih => exact Nat.le_trans (ids.count_le_next "col" stem) (ih _)

theorem id_defineColumn (id : String) (part : String × Option DataType × List ColumnConstraint) :
    (defineColumn table dialect id part).1.id = id :=
  defineColumn_kept Column.id table dialect (fun column kind => by unfold Column.apply; split <;> rfl)
    (fun _ _ => rfl) (fun _ => rfl) id part

theorem columnIds_defineColumns :
    (defineColumns table dialect ids parts).1.map (fun pair => pair.1.id) =
      IdCounter.drawn "col" ids (defineColumns table dialect ids parts).2 := by
  induction parts generalizing ids with
  | nil => exact (IdCounter.drawn_self ids).symm
  | cons part rest ih =>
    have first : IdCounter.drawn "col" ids (ids.next "col").2 = [(ids.next "col").1] :=
      IdCounter.drawn_next ids
    simp only [defineColumns, List.map_cons, id_defineColumn, ih]
    rw [← IdCounter.drawn_append (ids.count_le_next "col" "col")
      (count_defineColumns_le table dialect (ids.next "col").2 rest "col"), first]
    rfl

end

/-! Definitions. -/

section

variable (ids : IdCounter) (dialect : Dialect) (definition : CreateTable)

theorem count_start : (startTable (tableName definition) dialect definition.entries ids).ids.count "idx" =
    ids.count "idx" :=
  count_defineColumns _ _ _ _ (by decide)

theorem count_constrained_le (stem : String) :
    ids.count stem ≤ (constrained ids dialect definition).ids.count stem := by
  rw [constrained_eq]
  exact Nat.le_trans (count_defineColumns_le _ _ _ _ stem) (Change.count_applyAll_le _ _ _ stem)

theorem indexIds_definedTable : (definedTable ids dialect definition).table.indexIds =
    IdCounter.drawn "idx" ids (constrained ids dialect definition).ids := by
  have kept : (definedTable ids dialect definition).table.indexIds =
      (constrained ids dialect definition).table.indexIds := by
    simp only [definedTable, Table.indexIds, (Table.decorate_apart _ _).2.2, Defining.finish_eq,
      Table.mark]
  rw [kept, constrained_eq]
  simp only [Defining.after, Change.indexIds_applyAll, IdCounter.drawn, count_start]
  rfl

theorem columnIds_start :
    let start := startTable (tableName definition) dialect definition.entries ids
    start.table.columnIds = IdCounter.drawn "col" ids start.ids := by
  have drawn := columnIds_defineColumns (tableName definition) dialect ids
    (definition.entries.filterMap columnParts?)
  simpa [Table.columnIds, startTable, Function.comp_def] using drawn

theorem columnIds_definedTable : (definedTable ids dialect definition).table.columnIds =
    IdCounter.drawn "col" ids (constrained ids dialect definition).ids := by
  let start := startTable (tableName definition) dialect definition.entries ids
  have kept : (definedTable ids dialect definition).table.columnIds = start.table.columnIds := by
    refine Table.columnIds_of_outline ?_
    rw [definedTable, Table.outline_decorate, Defining.finish_eq, Change.outline_mark, constrained_eq]
    exact Change.outline_applyAll _ _
  -- the constraints draw no ids for columns
  have count : (constrained ids dialect definition).ids.count "col" = start.ids.count "col" := by
    rw [constrained_eq]
    exact Change.count_applyAll _ _ _ (by decide)
  rw [kept, IdCounter.drawn, count]
  exact columnIds_start ids dialect definition

end

theorem count_defineTables_le (ids : IdCounter) (definitions : List (Dialect × CreateTable))
    (stem : String) : ids.count stem ≤ (defineTables ids definitions).2.count stem := by
  induction definitions generalizing ids with
  | nil => exact Nat.le_refl _
  | cons first rest ih =>
    rw [defineTables_cons]
    split
    · exact ih ids
    · exact Nat.le_trans (count_constrained_le ids first.1 first.2 stem) (ih _)

/-- Where each table has the ids that its definition draws, all tables have all ids that are drawn. -/
theorem drawn_defineTables {stem : String} {tableIds : Table → List String}
    (drawn : ∀ ids dialect definition, tableIds (definedTable ids dialect definition).table =
      IdCounter.drawn stem ids (constrained ids dialect definition).ids)
    (ids : IdCounter) (definitions : List (Dialect × CreateTable)) :
    (successes (defineTables ids definitions).1).flatMap (fun defined => tableIds defined.table) =
      IdCounter.drawn stem ids (defineTables ids definitions).2 := by
  induction definitions generalizing ids with
  | nil => exact (IdCounter.drawn_self ids).symm
  | cons first rest ih =>
    obtain ⟨dialect, definition⟩ := first
    rw [defineTables_cons]
    split
    · exact ih ids
    · simp only [successes, List.filterMap_cons, Except.toOption, List.flatMap_cons, drawn]
      rw [← successes, ih, IdCounter.drawn_append (count_constrained_le ids dialect definition stem)
        (count_defineTables_le _ rest stem)]

/-! Merges. -/

theorem count_changeNamed_le (state : List Table × IdCounter) (amendment : String × List Change) :
    state.2.count "idx" ≤ (changeNamed state amendment).2.count "idx" := by
  unfold changeNamed changeAt
  split
  · split
    · exact Change.count_applyAll_le _ _ _ _
    · exact Nat.le_refl _
  · exact Nat.le_refl _

theorem indexIds_changeNamed (state : List Table × IdCounter) (amendment : String × List Change) :
    ((changeNamed state amendment).1.flatMap Table.indexIds).Perm
      (state.1.flatMap Table.indexIds ++
        IdCounter.drawn "idx" state.2 (changeNamed state amendment).2) := by
  unfold changeNamed changeAt
  split
  · next position _ =>
    split
    · next table here =>
      obtain ⟨bound, there⟩ := List.getElem?_eq_some_iff.mp here
      have parts : state.1 = state.1.take position ++ table :: state.1.drop (position + 1) := by
        simp [← there]
      have before := congrArg (List.flatMap Table.indexIds) parts
      simp only
      rw [List.set_eq_take_append_cons_drop, if_pos bound, before]
      simp only [List.flatMap_append, List.flatMap_cons, Change.indexIds_applyAll, List.append_assoc]
      -- the new ids are drawn in front of those of the later tables
      exact (List.perm_append_comm.append_left _).append_left _
    · simp [IdCounter.drawn_self]
  · simp [IdCounter.drawn_self]

theorem indexIds_foldl_changeNamed (state : List Table × IdCounter)
    (amendments : List (String × List Change)) :
    state.2.count "idx" ≤ (amendments.foldl changeNamed state).2.count "idx" ∧
    ((amendments.foldl changeNamed state).1.flatMap Table.indexIds).Perm
      (state.1.flatMap Table.indexIds ++
        IdCounter.drawn "idx" state.2 (amendments.foldl changeNamed state).2) := by
  induction amendments generalizing state with
  | nil => simp [IdCounter.drawn_self]
  | cons amendment rest ih =>
    obtain ⟨later, ids⟩ := ih (changeNamed state amendment)
    -- what is drawn later goes on where the first stretch ends
    have first := count_changeNamed_le state amendment
    refine ⟨Nat.le_trans first later, ?_⟩
    rw [List.foldl_cons, ← IdCounter.drawn_append first later, ← List.append_assoc]
    exact ids.trans ((indexIds_changeNamed state amendment).append_right _)

theorem indexIds_merge (tables : List Table) (keys : List ForeignKey) (alter : AlterConstraints)
    (ids : IdCounter) :
    ids.count "idx" ≤ (merge tables keys alter ids).ids.count "idx" ∧
    ((merge tables keys alter ids).tables.flatMap Table.indexIds).Perm
      (tables.flatMap Table.indexIds ++
        IdCounter.drawn "idx" ids (merge tables keys alter ids).ids) := by
  rw [merge_eq]
  exact indexIds_foldl_changeNamed (tables, ids) alter.changes

/-- No two indexes of a schema have one id. -/
theorem nodup_indexIds_merge (definitions : List (Dialect × CreateTable)) (keys : List ForeignKey)
    (alter : AlterConstraints) {made : List DefinedTable}
    (defined : successes (defineTables .start definitions).1 = made) :
    ((merge (made.map DefinedTable.table) keys alter
      (defineTables .start definitions).2).tables.flatMap Table.indexIds).Nodup := by
  subst defined
  obtain ⟨later, ids⟩ := indexIds_merge
    ((successes (defineTables .start definitions).1).map DefinedTable.table) keys alter
    (defineTables .start definitions).2
  rw [List.flatMap_map, drawn_defineTables indexIds_definedTable,
    IdCounter.drawn_append (count_defineTables_le .start definitions "idx") later] at ids
  exact ids.nodup_iff.mpr (IdCounter.nodup_drawn _ _)

end DdlSchema.Schema
