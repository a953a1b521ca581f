import DdlSchema.Schema.Merge

/-! What look-ups see of the tables. It is the names alone, so a constraint that changes no name leaves
every later look-up as it was. The ids of the columns, which indexes list, are as fixed as the names. -/

set_option autoImplicit false

namespace DdlSchema.Schema

open DdlSchema.Text

section

variable {α β : Type} {list : List α} (reading : α → β) {place : Nat} {old : α}

/-- An entry in the place of one with the same reading. -/
theorem map_set_eq (here : list[place]? = some old) {new : α} (same : reading new = reading old) :
    (list.set place new).map reading = list.map reading := by
  obtain ⟨bound, rfl⟩ := List.getElem?_eq_some_iff.mp here
  have inside : place < (list.map reading).length := by simpa using bound
  have entry : reading list[place] = (list.map reading)[place] := (List.getElem_map reading).symm
  rw [List.map_set, same, entry, List.set_getElem_self inside]

/-- Where readings are distinct, two places have two readings. -/
theorem ne_of_nodup_map (distinct : (list.map reading).Nodup) (here : list[place]? = some old)
    {position : Nat} {other : α} (there : list[position]? = some other) (apart : place ≠ position) :
    reading old ≠ reading other := by
  intro same
  obtain ⟨bound, -⟩ := List.getElem?_eq_some_iff.mp here
  refine apart ((List.getElem?_inj (by simpa using bound) distinct).mp ?_)
  simp [here, there, same]

end

def Column.outline (column : Column) : String × String := (column.id, column.name)

/-- The name of a table, and the ids and names of its columns. -/
def Table.outline (table : Table) : String × List (String × String) :=
  (table.name, table.columns.map Column.outline)

theorem Table.name_of_outline {table other : Table} (same : table.outline = other.outline) :
    table.name = other.name :=
  congrArg Prod.fst same

theorem Table.names_of_outline {table other : Table} (same : table.outline = other.outline) :
    table.columns.map Column.name = other.columns.map Column.name := by
  simpa [outline, Column.outline, Function.comp_def] using
    congrArg (fun outline => outline.2.map Prod.snd) same

theorem Table.position?_congr {table other : Table} (same : table.outline = other.outline)
    (name : String) : table.position? name = other.position? name := by
  simp only [position?, names_of_outline same]

theorem Table.positions_congr {table other : Table} (same : table.outline = other.outline)
    (names : List String) : table.positions names = other.positions names := by
  have positions : table.position? = other.position? := funext (position?_congr same)
  simp only [Table.positions, positions]

theorem Table.columnsAt_congr {table other : Table} (same : table.outline = other.outline)
    (positions : List Nat) :
    (table.columnsAt positions).map Column.outline = (other.columnsAt positions).map Column.outline := by
  have entry : ∀ (table : Table) (place : Nat),
      table.columns[place]?.map Column.outline = table.outline.2[place]? := by
    simp [outline]
  simp only [columnsAt, List.map_filterMap, entry, same]

theorem namePosition?_lt {names : List String} {name : String} {position : Nat}
    (found : namePosition? names name = some position) : position < names.length := by
  unfold namePosition? at found
  split at found
  · next exact =>
    cases found
    exact (List.findIdx?_eq_some_iff_getElem.mp exact).1
  · exact (List.findIdx?_eq_some_iff_getElem.mp found).1

theorem Table.position?_lt {table : Table} {name : String} {position : Nat}
    (found : table.position? name = some position) : position < table.columns.length := by
  simpa using namePosition?_lt found

/-! Tables by name. -/

/-- The look-up of `exactTable?` in the names alone. -/
def lastNamed? (names : List String) (name : String) : Option Nat :=
  match names.reverse.findIdx? (· == name) with
  | some fromEnd => some (names.length - 1 - fromEnd)
  | none => names.findIdx? fun other => lowerString other == name

theorem exactTable?_eq_lastNamed? (tables : List Table) (name : String) :
    exactTable? tables name = lastNamed? (tables.map Table.name) name := by
  simp only [exactTable?, lastNamed?, ← List.map_reverse, List.findIdx?_map, List.length_map]
  rfl

theorem names_of_outlines {tables others : List Table}
    (same : tables.map Table.outline = others.map Table.outline) :
    tables.map Table.name = others.map Table.name := by
  simpa [Function.comp_def, Table.outline] using congrArg (List.map Prod.fst) same

theorem exactTable?_congr {tables others : List Table}
    (same : tables.map Table.name = others.map Table.name) (name : String) :
    exactTable? tables name = exactTable? others name := by
  rw [exactTable?_eq_lastNamed?, exactTable?_eq_lastNamed?, same]

theorem findTable?_congr {tables others : List Table}
    (same : tables.map Table.name = others.map Table.name) (name : String) :
    findTable? tables name = findTable? others name := by
  simp only [findTable?, exactTable?_congr same]

theorem lastNamed?_lt {names : List String} {name : String} {position : Nat}
    (found : lastNamed? names name = some position) : position < names.length := by
  unfold lastNamed? at found
  split at found
  · next fromEnd exact =>
    have bound := (List.findIdx?_eq_some_iff_getElem.mp exact).1
    rw [List.length_reverse] at bound
    cases found
    omega
  · exact (List.findIdx?_eq_some_iff_getElem.mp found).1

theorem exactTable?_lt {tables : List Table} {name : String} {position : Nat}
    (found : exactTable? tables name = some position) : position < tables.length := by
  rw [exactTable?_eq_lastNamed?] at found
  simpa using lastNamed?_lt found

theorem findTable?_lt {tables : List Table} {name : String} {position : Nat}
    (found : findTable? tables name = some position) : position < tables.length := by
  unfold findTable? at found
  cases exact : exactTable? tables name with
  | some place =>
    rw [exact] at found
    cases found
    exact exactTable?_lt exact
  | none =>
    rw [exact] at found
    exact exactTable?_lt found

/-- Among distinct names a table is found under its own. -/
theorem exactTable?_own {tables : List Table} (distinct : (tables.map Table.name).Nodup)
    {position : Nat} {table : Table} (here : tables[position]? = some table) :
    exactTable? tables table.name = some position := by
  obtain ⟨bound, rfl⟩ := List.getElem?_eq_some_iff.mp here
  -- the look-up runs from the end, where no later table has the name
  have exact : (tables.reverse.findIdx? fun other => other.name == tables[position].name) =
      some (tables.length - 1 - position) := by
    rw [List.findIdx?_eq_some_iff_getElem]
    refine ⟨by simp; omega, ?_, fun earlier less => ?_⟩
    · simp only [List.getElem_reverse, beq_iff_eq]
      congr 1
      simp only [show tables.length - 1 - (tables.length - 1 - position) = position by omega]
    · simp only [List.getElem_reverse, beq_iff_eq]
      intro same
      have place : tables.length - 1 - earlier < (tables.map Table.name).length := by simp; omega
      have here : position < (tables.map Table.name).length := by simpa using bound
      have : tables.length - 1 - earlier = position :=
        (@List.getElem_inj _ _ _ _ place here distinct).mp (by simpa using same)
      omega
  simp only [exactTable?, exact]
  congr 1
  omega

theorem findTable?_own {tables : List Table} (distinct : (tables.map Table.name).Nodup)
    {position : Nat} {table : Table} (here : tables[position]? = some table) :
    findTable? tables table.name = some position := by
  simp [findTable?, exactTable?_own distinct here]

/-! Foreign keys by the names of their table and column. -/

theorem getElem?_outline {tables others : List Table}
    (same : tables.map Table.outline = others.map Table.outline) (position : Nat) :
    tables[position]?.map Table.outline = others[position]?.map Table.outline := by
  simpa using congrArg (·[position]?) same

theorem Table.resolved_congr {table other : Table} (same : table.outline = other.outline)
    (place : Nat) : table.columns[place]?.map Column.name = other.columns[place]?.map Column.name := by
  simpa using congrArg (·[place]?) (names_of_outline same)

end DdlSchema.Schema
