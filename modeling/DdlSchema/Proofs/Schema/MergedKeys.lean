import DdlSchema.Proofs.Schema.Merging
import DdlSchema.Proofs.Schema.TableLookup

/-! The accounts of a merge: every foreign key that goes in comes out once, under the names of the table
and the column it finds, or leaves one warning behind. -/

set_option autoImplicit false

namespace DdlSchema.Schema

open DdlSchema.Text

/-! Tables by name, without their places. -/

/-- The table of the name, else of its lower case, else the first that has the same lower case. -/
def namedTable? (tables : List Table) (name : String) : Option Table :=
  (tables.find? fun table => table.name == name) <|>
    (tables.find? fun table => table.name == lowerString name) <|>
    tables.find? fun table => lowerString table.name == lowerString name

theorem bind_findIdx? {α : Type} (list : List α) (test : α → Bool) :
    ((list.findIdx? test).bind fun place => list[place]?) = list.find? test := by
  induction list with
  | nil => rfl
  | cons head rest ih =>
    rw [List.findIdx?_cons, List.find?_cons]
    cases test head with
    | true => rfl
    | false => simpa [Option.bind_map, Function.comp_def] using ih

theorem find?_own {tables : List Table} (distinct : (tables.map Table.name).Nodup) {position : Nat}
    {table : Table} (here : tables[position]? = some table) :
    (tables.find? fun other => other.name == table.name) = some table := by
  have first : (tables.findIdx? fun other => other.name == table.name) = some position := by
    obtain ⟨bound, rfl⟩ := List.getElem?_eq_some_iff.mp here
    refine List.findIdx?_eq_some_iff_getElem.mpr ⟨bound, by simp, fun earlier less => ?_⟩
    rw [beq_iff_eq]
    exact ne_of_nodup_map Table.name distinct (List.getElem?_eq_getElem (by omega)) here
      (Nat.ne_of_lt less)
  rw [← bind_findIdx?, first, Option.bind_some, here]

theorem bind_exactTable? {tables : List Table} (distinct : (tables.map Table.name).Nodup)
    (name : String) :
    ((exactTable? tables name).bind fun position => tables[position]?) =
      ((tables.find? fun table => table.name == name) <|>
        tables.find? fun table => lowerString table.name == name) := by
  by_cases used : name ∈ tables.map Table.name
  · obtain ⟨table, member, rfl⟩ := List.mem_map.mp used
    obtain ⟨position, here⟩ := List.mem_iff_getElem?.mp member
    rw [exactTable?_own distinct here, find?_own distinct here, Option.bind_some, here]
    rfl
  · have unnamed : (tables.find? fun table => table.name == name) = none :=
      List.find?_eq_none.mpr fun table member => by
        rw [beq_iff_eq]
        exact fun same => used (List.mem_map.mpr ⟨table, member, same⟩)
    rw [exactTable?_of_not_mem used, unnamed, List.findIdx?_map]
    exact bind_findIdx? tables _

theorem alteredTable?_eq_namedTable? {tables : List Table} (distinct : (tables.map Table.name).Nodup)
    (name : String) : alteredTable? tables name = namedTable? tables name := by
  have split : alteredTable? tables name =
      (((exactTable? tables name).bind fun position => tables[position]?) <|>
        (exactTable? tables (lowerString name)).bind fun position => tables[position]?) := by
    unfold alteredTable? findTable?
    cases exact : exactTable? tables name with
    | none => rfl
    | some position => simp [List.getElem?_eq_getElem (exactTable?_lt exact)]
  rw [split, bind_exactTable? distinct, bind_exactTable? distinct, namedTable?]
  cases unnamed : tables.find? fun table => table.name == name with
  | some table => rfl
  | none =>
    cases small : tables.find? fun table => lowerString table.name == name with
    | none => rfl
    | some table =>
      -- the name is in lower case itself
      have own : lowerString name = name := by
        have fits : lowerString table.name = name := by simpa using List.find?_some small
        rw [← fits, lowerString_lowerString]
      simp [own, unnamed, small]

/-! What becomes of a foreign key. -/

/-- The key under the names of the table and the column that it finds. -/
def linkedKey? (tables : List Table) (key : ForeignKey) : Option ForeignKey :=
  (namedTable? tables key.table).bind fun table =>
    (table.column? key.column).map fun column =>
      { key with table := table.name, column := column.name }

/-- What is said of a key that finds no table, or no column there. -/
def lostKey? (tables : List Table) (key : ForeignKey) : Option Warning :=
  match namedTable? tables key.table with
  | none => some (.referencedTableMissing key.table)
  | some table =>
    match table.column? key.column with
    | none => some (.foreignKeyColumnMissing key.column key.table)
    | some _ => none

/-- The table goes by this name, in this or another case. -/
def Table.GoesBy (table : Table) (name : String) : Prop :=
  table.name = name ∨ lowerString table.name = lowerString name

instance (table : Table) (name : String) : Decidable (table.GoesBy name) :=
  inferInstanceAs (Decidable (_ ∨ _))

/-- What is said of a key that points to no table. -/
def danglingKey? (tables : List Table) (key : ForeignKey) : Option Warning :=
  if ∃ table ∈ tables, table.GoesBy key.target.table then none
  else some (.referencedTableMissing key.target.table)

def ForeignKey.unrated (key : ForeignKey) : ForeignKey := { key with cardinality := .oneToMany }

@[simp] theorem unrated_withCardinality (tables : List Table) (key : ForeignKey) :
    (withCardinality tables key).unrated = key.unrated := rfl

theorem accepted_or_refused (tables : List Table) (key : ForeignKey) :
    (acceptedKey? tables key = (alteredTable? tables key.table).bind fun table =>
      (table.column? key.column).map fun column =>
        { key with table := table.name, column := column.name }) ∧
    (refusal? tables key = match alteredTable? tables key.table with
      | none => some (.referencedTableMissing key.table)
      | some table =>
        match table.column? key.column with
        | none => some (.foreignKeyColumnMissing key.column key.table)
        | some _ => none) := by
  unfold acceptedKey? refusal? resolveForeignKey alteredTable?
  cases findTable? tables key.table with
  | none => exact ⟨rfl, rfl⟩
  | some position =>
    simp only [Option.bind_some]
    cases tables[position]? with
    | none => exact ⟨rfl, rfl⟩
    | some table =>
      simp only [Option.map_some, Option.bind_some, Table.column?]
      cases table.position? key.column with
      | none => exact ⟨rfl, rfl⟩
      | some place =>
        simp only [Option.bind_some]
        cases table.columns[place]? <;> exact ⟨rfl, rfl⟩

theorem namedTable?_eq_none_iff {tables : List Table} {name : String} :
    namedTable? tables name = none ↔ ¬ ∃ table ∈ tables, table.GoesBy name := by
  simp only [namedTable?, Option.orElse_eq_orElse, Option.orElse_eq_or, Option.or_eq_none_iff,
    List.find?_eq_none, beq_iff_eq, Table.GoesBy, not_exists, not_and, not_or]
  constructor
  · rintro ⟨unnamed, -, unlike⟩ table member
    exact ⟨unnamed table member, unlike table member⟩
  · intro apart
    refine ⟨fun table member => (apart table member).1, fun table member same => ?_,
      fun table member => (apart table member).2⟩
    exact (apart table member).2 (by rw [same, lowerString_lowerString])

theorem lostKey?_eq_none_iff {tables : List Table} {key : ForeignKey} :
    lostKey? tables key = none ↔ (linkedKey? tables key).isSome := by
  unfold lostKey? linkedKey?
  cases namedTable? tables key.table with
  | none => simp
  | some table => cases known : table.column? key.column <;> simp [known]

theorem danglingKey?_congr (tables : List Table) {key other : ForeignKey}
    (same : key.target = other.target) : danglingKey? tables key = danglingKey? tables other := by
  simp only [danglingKey?, same]

section

variable {tables : List Table} (distinct : (tables.map Table.name).Nodup)

include distinct

theorem acceptedKey?_eq_linkedKey? : acceptedKey? tables = linkedKey? tables := by
  funext key
  rw [(accepted_or_refused tables key).1, alteredTable?_eq_namedTable? distinct]
  rfl

theorem refusal?_eq_lostKey? : refusal? tables = lostKey? tables := by
  funext key
  rw [(accepted_or_refused tables key).2, alteredTable?_eq_namedTable? distinct]
  rfl

theorem missingTargets_eq (keys : List ForeignKey) :
    missingTargets tables keys = keys.filterMap (danglingKey? tables) := by
  refine congrArg (keys.filterMap ·) (funext fun key => ?_)
  have missing : findTable? tables key.target.table = none ↔
      ¬ ∃ table ∈ tables, table.GoesBy key.target.table := by
    rw [← alteredTable?_eq_none, alteredTable?_eq_namedTable? distinct, namedTable?_eq_none_iff]
  by_cases known : ∃ table ∈ tables, table.GoesBy key.target.table
  · have found : findTable? tables key.target.table ≠ none := fun none => missing.mp none known
    simp [danglingKey?, known, found]
  · simp [danglingKey?, known, missing.mpr known]

end

/-! A key that is lost changes nothing. -/

theorem changeNamed_refused {tables : List Table} {key : ForeignKey} {warning : Warning}
    (refused : refusal? tables key = some warning) {state : List Table × IdCounter}
    (same : state.1.map Table.outline = tables.map Table.outline) :
    changeNamed state key.change = state := by
  rw [← refusal?_congr same] at refused
  refine Prod.ext ?_ (changeNamed_link_ids state key)
  rw [changeNamed_link state.1 state.2]
  unfold refusal? at refused
  split at refused
  · cases refused
  · next there => rw [there]

theorem mergedTables_refused {tables : List Table} {alter : AlterConstraints}
    {front back : List ForeignKey} {key : ForeignKey} {warning : Warning}
    (listed : alter.foreignKeys = front ++ key :: back) (refused : refusal? tables key = some warning)
    (ids : IdCounter) :
    mergedTables tables alter ids =
      mergedTables tables { alter with foreignKeys := front ++ back } ids := by
  have amendments : ({ alter with foreignKeys := front ++ back } : AlterConstraints).amendments =
      alter.amendments := rfl
  -- in front of the key nothing has changed a name
  have skipped := changeNamed_refused refused
    (outlines_foldl_changeNamed (tables, ids)
      ((alter.amendments.map fun amendment => (amendment.table, amendment.changes)) ++
        front.map ForeignKey.change))
  rw [List.foldl_append] at skipped
  simp only [mergedTables, AlterConstraints.changes, listed, amendments, List.map_append, List.map_cons,
    List.foldl_append, List.foldl_cons, skipped]

/-- Among tables of distinct names no foreign key is lost in silence. The keys that come out are those that
went in, followed by the altered ones that find their table and column; each of the others leaves one warning
and nothing else; and each key that comes out leaves one if no table goes by the name it points to. -/
theorem merged_keys_accounted {tables : List Table} (distinct : (tables.map Table.name).Nodup)
    (keys : List ForeignKey) (alter : AlterConstraints) (ids : IdCounter) :
    (merge tables keys alter ids).foreignKeys.map ForeignKey.unrated =
      (keys ++ alter.foreignKeys.filterMap (linkedKey? tables)).map ForeignKey.unrated ∧
    (merge tables keys alter ids).warnings =
      (merge tables [] { alter with foreignKeys := [] } ids).warnings ++
        alter.foreignKeys.filterMap (lostKey? tables) ++
        (merge tables keys alter ids).foreignKeys.filterMap (danglingKey? tables) ∧
    ∀ front key back, alter.foreignKeys = front ++ key :: back → linkedKey? tables key = none →
      ∃ warning before after, lostKey? tables key = some warning ∧
        (merge tables keys { alter with foreignKeys := front ++ back } ids).warnings =
          before ++ after ∧
        merge tables keys alter ids =
          { merge tables keys { alter with foreignKeys := front ++ back } ids with
            warnings := before ++ warning :: after } := by
  have accepted := acceptedKey?_eq_linkedKey? distinct
  have refused := refusal?_eq_lostKey? distinct
  have amendments : ∀ added, ({ alter with foreignKeys := added } : AlterConstraints).amendments =
      alter.amendments := fun _ => rfl
  refine ⟨?_, ?_, fun front key back listed unlinked => ?_⟩
  · simp only [merge_eq, mergedKeys, accepted, List.map_map]
    exact List.map_congr_left fun key _ => unrated_withCardinality _ key
  · have dangling : ∀ final, (danglingKey? tables) ∘ withCardinality final = danglingKey? tables :=
      fun final => funext fun key => danglingKey?_congr tables rfl
    simp only [merge_eq, amendments, mergedKeys, accepted, refused, missingTargets_eq distinct,
      List.filterMap_map, dangling, List.filterMap_nil, List.append_nil]
  · cases lost : lostKey? tables key with
    | none => simp [lostKey?_eq_none_iff, unlinked] at lost
    | some warning =>
      have same := mergedTables_refused listed ((congrFun refused key).trans lost) ids
      refine ⟨warning, alter.amendments.flatMap (Amendment.warnings tables) ++
          front.filterMap (lostKey? tables), back.filterMap (lostKey? tables) ++
          missingTargets tables (keys ++ (front ++ back).filterMap (linkedKey? tables)), rfl, ?_, ?_⟩
      · simp only [merge_eq, amendments, mergedKeys, accepted, refused, List.filterMap_append,
          List.append_assoc]
      · have kept : (front ++ key :: back).filterMap (linkedKey? tables) =
            (front ++ back).filterMap (linkedKey? tables) := by
          simp [unlinked]
        simp only [merge_eq, same, amendments, mergedKeys, accepted, refused, listed, kept]
        simp [lost]

/-- Of three altered keys, the first is linked under other cases and points nowhere, the second lacks its
column and the third its table. -/
theorem merged_keys_accounted_mixed :
    let tables : List Table :=
      [{ name := "Users", columns := [⟨"col_1", "Id", "INT", true, none, false, true, false, false,
          none, none, none⟩] }]
    let keys : List ForeignKey := [{ table := "Users", column := "Id", target := ⟨"users", "id"⟩ }]
    let linked : ForeignKey := { table := "USERS", column := "ID", target := ⟨"nowhere", "id"⟩ }
    let half : ForeignKey := { table := "users", column := "x", target := ⟨"nowhere", "id"⟩ }
    let lost : ForeignKey := { table := "t", column := "Id", target := ⟨"Users", "Id"⟩ }
    let alter : AlterConstraints := { foreignKeys := [linked, half, lost] }
    (tables.map Table.name).Nodup ∧ alter.foreignKeys = [linked] ++ half :: [lost] ∧
    linkedKey? tables half = none ∧
    (merge tables keys alter .start).foreignKeys.map ForeignKey.unrated =
      keys ++ [{ linked with table := "Users", column := "Id" }] ∧
    (merge tables keys alter .start).warnings = [.foreignKeyColumnMissing "x" "users",
      .referencedTableMissing "t", .referencedTableMissing "nowhere"] ∧
    ∃ warning before after, lostKey? tables half = some warning ∧
      (merge tables keys { alter with foreignKeys := [linked] ++ [lost] } .start).warnings =
        before ++ after ∧
      (merge tables keys alter .start).warnings = before ++ warning :: after := by
  intro tables keys linked half lost alter
  have distinct : (tables.map Table.name).Nodup := by decide
  have unlinked : linkedKey? tables half = none := by decide +kernel
  obtain ⟨listed, warned, alone⟩ := merged_keys_accounted distinct keys alter .start
  obtain ⟨warning, before, after, said, without, within⟩ := alone [linked] half [lost] rfl unlinked
  refine ⟨distinct, rfl, unlinked, listed.trans ?_, ?_, warning, before, after, said, without, ?_⟩
  · decide +kernel
  · decide +kernel
  · rw [within]

end DdlSchema.Schema
