import DdlSchema.Proofs.Schema.Parsing

/-! Foreign keys stand in two places, in the list of a schema and with its columns, and the two agree.
Four operations touch them: a reference in a column, a foreign key of the table, an altered one, and a
later definition that takes the place of an earlier one. -/

set_option autoImplicit false

namespace DdlSchema.Schema

open DdlSchema.Ddl DdlSchema.Statement

/-! The keys of one table. -/

def Table.links (table : Table) : List (String × Option Target) :=
  table.columns.map fun column => (column.name, column.target)

def lastTarget? (keys : List ForeignKey) (column : String) : Option Target :=
  (keys.filter fun key => key.column == column).getLast?.map ForeignKey.target

/-- Agreement of the columns of a table with the keys of that table. -/
structure LinksAgree (links : List (String × Option Target)) (keys : List ForeignKey) : Prop where
  flagged : ∀ key ∈ keys, ∃ target, (key.column, some target) ∈ links
  listed : ∀ name target, (name, some target) ∈ links → ∃ key ∈ keys, key.column = name
  pointed : (links.map Prod.fst).Nodup →
    ∀ name target, (name, target) ∈ links → target = lastTarget? keys name

theorem lastTarget?_concat_own {keys : List ForeignKey} {key : ForeignKey} {column : String}
    (own : key.column = column) : lastTarget? (keys ++ [key]) column = some key.target := by
  simp [lastTarget?, own]

theorem lastTarget?_concat_other {keys : List ForeignKey} {key : ForeignKey} {column : String}
    (other : key.column ≠ column) : lastTarget? (keys ++ [key]) column = lastTarget? keys column := by
  simp [lastTarget?, other]

/-- A new key is the last one of its column, which then points where the key does. -/
theorem LinksAgree.link {links : List (String × Option Target)} {keys : List ForeignKey}
    (agrees : LinksAgree links keys) {place : Nat} {key : ForeignKey} {before : Option Target}
    (here : links[place]? = some (key.column, before)) :
    LinksAgree (links.set place (key.column, some key.target)) (keys ++ [key]) := by
  obtain ⟨bound, -⟩ := List.getElem?_eq_some_iff.mp here
  have names : (links.set place (key.column, some key.target)).map Prod.fst = links.map Prod.fst :=
    map_set_eq Prod.fst here rfl
  -- an entry is the linked one or one from before; only in the last case the names must be distinct
  refine ⟨fun other member => ?_, fun name target member => ?_, fun distinct name target member => ?_⟩
  · rcases List.mem_append.mp member with old | new
    · obtain ⟨target, inside⟩ := agrees.flagged other old
      obtain ⟨position, there⟩ := List.mem_iff_getElem?.mp inside
      by_cases same : place = position
      · subst same
        have columns : key.column = other.column := by
          rw [here] at there
          exact congrArg Prod.fst (Option.some.inj there)
        exact ⟨key.target, columns ▸ List.mem_set bound _⟩
      · exact ⟨target, List.mem_iff_getElem?.mpr ⟨position, by rw [List.getElem?_set_ne same, there]⟩⟩
    · rw [List.mem_singleton] at new
      subst new
      exact ⟨other.target, List.mem_set bound _⟩
  · rcases List.mem_or_eq_of_mem_set member with old | new
    · obtain ⟨other, inside, column⟩ := agrees.listed name target old
      exact ⟨other, List.mem_append_left _ inside, column⟩
    · exact ⟨key, by simp, (congrArg Prod.fst new).symm⟩
  · rw [names] at distinct
    obtain ⟨position, there⟩ := List.mem_iff_getElem?.mp member
    by_cases same : place = position
    · subst same
      rw [List.getElem?_set_self bound, Option.some.injEq, Prod.mk.injEq] at there
      obtain ⟨rfl, rfl⟩ := there
      exact (lastTarget?_concat_own rfl).symm
    · rw [List.getElem?_set_ne same] at there
      have other : key.column ≠ name := ne_of_nodup_map Prod.fst distinct here there same
      rw [lastTarget?_concat_other other]
      exact agrees.pointed distinct name target (List.mem_of_getElem? there)

/-! Which changes leave the links alone. -/

def Mark.isLink : Mark → Bool
  | .foreignKey _ => true
  | _ => false

theorem Mark.target_apply {mark : Mark} (noLink : mark.isLink = false) (column : Column) :
    (mark.apply column).target = column.target := by
  cases mark with
  | foreignKey target => cases noLink
  | _ => rfl

theorem Table.links_mark (table : Table) (places : List Nat) {mark : Mark}
    (noLink : mark.isLink = false) : (table.mark places mark).links = table.links :=
  table.map_mark _ (fun column => by rw [Mark.name_apply, Mark.target_apply noLink]) places

theorem Table.links_link (table : Table) {place : Nat} {column : Column} (target : Target)
    (here : table.columns[place]? = some column) :
    (table.mark [place] (.foreignKey target)).links =
      table.links.set place (column.name, some target) := by
  obtain ⟨bound, rfl⟩ := List.getElem?_eq_some_iff.mp here
  refine List.ext_getElem? fun position => ?_
  by_cases same : place = position
  · subst same
    simp [Table.links, Table.mark, bound, Mark.apply, Column.markForeignKey]
  · simp [Table.links, Table.mark, List.getElem?_set_ne same, Ne.symm same]

theorem Change.links_applyAll (state : Table × IdCounter) {changes : List Change}
    (noLink : ∀ change ∈ changes, change.mark.isLink = false) :
    (applyAll state changes).1.links = state.1.links := by
  induction changes generalizing state with
  | nil => rfl
  | cons change rest ih =>
    rw [applyAll_cons, ih _ fun later member => noLink later (List.mem_cons_of_mem _ member)]
    simp only [Table.links, columns_apply]
    exact Table.links_mark _ _ (noLink change List.mem_cons_self)

/-- A key for the column at a place of a table that agrees with its keys. -/
theorem Table.agree_link {table : Table} {keys : List ForeignKey}
    (agrees : LinksAgree table.links keys) {place : Nat} {column : Column} {key : ForeignKey}
    (here : table.columns[place]? = some column) (own : key.column = column.name) :
    LinksAgree (table.mark [place] (.foreignKey key.target)).links (keys ++ [key]) := by
  have linked : table.links[place]? = some (key.column, column.target) := by
    simp [Table.links, here, own]
  rw [table.links_link key.target here, ← own]
  exact agrees.link linked

/-! References in columns. -/

def Paired (table : String) (pair : Column × Option ForeignKey) : Prop :=
  match pair.2 with
  | none => pair.1.target = none
  | some key => key.table = table ∧ key.column = pair.1.name ∧ pair.1.target = some key.target

theorem paired_defineColumn (table : String) (dialect : Dialect) (id : String)
    (parts : String × Option DataType × List ColumnConstraint) :
    Paired table (defineColumn table dialect id parts) := by
  obtain ⟨name, type, constraints⟩ := parts
  have target := Column.declare_kept Column.target dialect (Column.target_apply dialect)
    (Column.fresh id name type) constraints
  have names := Column.declare_kept Column.name dialect (Column.name_apply dialect)
    (Column.fresh id name type) constraints
  simp only [defineColumn, Column.applyAll_eq]
  cases inlineReference? constraints with
  | none => simpa [Paired, Column.close, Column.fresh] using target
  | some found => simp [Paired, Column.close, Column.markForeignKey, referenceKey, names]

theorem LinksAgree.column {links : List (String × Option Target)} {keys : List ForeignKey}
    (agrees : LinksAgree links keys) (name : String) : LinksAgree (links ++ [(name, none)]) keys := by
  refine ⟨fun key member => ?_, fun other target member => ?_, fun distinct other target member => ?_⟩
  · obtain ⟨target, inside⟩ := agrees.flagged key member
    exact ⟨target, List.mem_append_left _ inside⟩
  · refine agrees.listed other target ?_
    simpa using member
  · rw [List.map_append, List.nodup_append] at distinct
    rcases List.mem_append.mp member with old | new
    · exact agrees.pointed distinct.1 other target old
    · simp only [List.mem_singleton, Prod.mk.injEq] at new
      obtain ⟨rfl, rfl⟩ := new
      have unused : ∀ key ∈ keys, key.column ≠ other := by
        intro key inside same
        obtain ⟨target, there⟩ := agrees.flagged key inside
        exact distinct.2.2 key.column (List.mem_map_of_mem there) other (by simp) same
      have empty : keys.filter (fun key => key.column == other) = [] := by
        simpa [List.filter_eq_nil_iff] using unused
      simp [lastTarget?, empty]

/-- The columns as they are first declared agree with the keys declared along with them. -/
theorem LinksAgree.paired {table : String} {links : List (String × Option Target)}
    {keys : List ForeignKey} (agrees : LinksAgree links keys)
    {pairs : List (Column × Option ForeignKey)} (paired : ∀ pair ∈ pairs, Paired table pair) :
    LinksAgree (links ++ pairs.map fun pair => (pair.1.name, pair.1.target))
      (keys ++ pairs.filterMap Prod.snd) := by
  induction pairs generalizing links keys with
  | nil => simpa using agrees
  | cons pair rest ih =>
    obtain ⟨column, key⟩ := pair
    have own := paired _ List.mem_cons_self
    -- the column goes in without a target first, then its key is linked
    have later := fun agrees => @ih (links ++ [(column.name, column.target)]) (keys ++ key.toList) agrees
      fun pair member => paired pair (List.mem_cons_of_mem _ member)
    have split : keys ++ ((column, key) :: rest).filterMap Prod.snd =
        keys ++ key.toList ++ rest.filterMap Prod.snd := by
      cases key <;> simp
    rw [split, List.map_cons, ← List.singleton_append, ← List.append_assoc]
    refine later ?_
    cases key with
    | none =>
      have free : column.target = none := own
      simpa [free] using agrees.column column.name
    | some key =>
      have names : key.column = column.name := own.2.1
      have points : column.target = some key.target := own.2.2
      have here : (links ++ [(column.name, none)])[links.length]? = some (key.column, none) := by
        simp [names]
      have linked := (agrees.column column.name).link here
      simp only [List.set_append_right _ _ (Nat.le_refl _), Nat.sub_self, List.set_cons_zero] at linked
      simpa [points, names] using linked

/-! A table under definition. -/

/-- The keys are all of the table, and its columns agree with them. -/
def Defining.Agrees (state : Defining) : Prop :=
  (∀ key ∈ state.foreignKeys, key.table = state.table.name) ∧
    LinksAgree state.table.links state.foreignKeys

theorem Defining.agrees_start (name : String) (dialect : Dialect) (elements : List Element)
    (ids : IdCounter) : (startTable name dialect elements ids).Agrees := by
  have paired : ∀ pair ∈ (defineColumns name dialect ids (elements.filterMap columnParts?)).1,
      Paired name pair := by
    intro pair member
    obtain ⟨id, parts, -, rfl⟩ := mem_defineColumns member
    exact paired_defineColumn _ _ _ _
  refine ⟨fun key member => ?_, ?_⟩
  · obtain ⟨pair, inside, declared⟩ := List.mem_filterMap.mp member
    have own := paired pair inside
    rw [Paired, declared] at own
    exact own.1
  · have nothing : LinksAgree [] [] := ⟨by simp, by simp, by simp⟩
    simpa [startTable, Table.links, Function.comp_def] using nothing.paired paired

theorem Defining.agrees_after (state : Defining) {changes : List Change}
    (noLink : ∀ change ∈ changes, change.mark.isLink = false) (warnings : List Warning) (key : Bool)
    (agrees : state.Agrees) : (state.after changes [] warnings key).Agrees := by
  obtain ⟨own, links⟩ := agrees
  refine ⟨fun key member => ?_, ?_⟩
  · rw [after, List.append_nil] at member
    rw [own key member]
    exact (Table.name_of_outline (Change.outline_applyAll (state.table, state.ids) changes)).symm
  · simpa [after, Change.links_applyAll _ noLink] using links

theorem Defining.agrees_foreignKeyColumn (state : Defining) (key : ForeignKey)
    (own : key.table = state.table.name) (agrees : state.Agrees) :
    (state.foreignKeyColumn key).Agrees := by
  unfold foreignKeyColumn
  cases found : state.table.position? key.column with
  | none => exact agrees
  | some place =>
    have bound := Table.position?_lt found
    have here := List.getElem?_eq_getElem bound
    refine ⟨fun other member => ?_, ?_⟩
    · rcases List.mem_append.mp member with old | new
      · exact agrees.1 other old
      · rw [List.mem_singleton] at new
        subst new
        exact own
    · let renamed : ForeignKey := { key with column := state.table.columns[place].name }
      have linked : LinksAgree (state.table.mark [place] (.foreignKey renamed.target)).links
          (state.foreignKeys ++ [renamed]) := Table.agree_link agrees.2 here rfl
      rw [← Table.modifyColumn_eq_mark] at linked
      simp only [here, Option.map_some, Option.getD_some]
      exact linked

theorem Defining.agrees_foldl_foreignKeyColumn (state : Defining) {keys : List ForeignKey}
    (own : ∀ key ∈ keys, key.table = state.table.name) (agrees : state.Agrees) :
    (keys.foldl Defining.foreignKeyColumn state).Agrees := by
  induction keys generalizing state with
  | nil => exact agrees
  | cons key rest ih =>
    have name : (state.foreignKeyColumn key).table.name = state.table.name := by
      rw [foreignKeyColumn_eq]
      exact Table.name_of_outline (Change.outline_applyAll (state.table, state.ids) _)
    refine ih _ (fun later member => ?_)
      (state.agrees_foreignKeyColumn key (own key List.mem_cons_self) agrees)
    rw [name]
    exact own later (List.mem_cons_of_mem _ member)

theorem Defining.agrees_apply (state : Defining) (constraint : Option String × Constraint)
    (agrees : state.Agrees) : (state.apply constraint.1 constraint.2).Agrees := by
  obtain ⟨name, kind⟩ := constraint
  -- all kinds but one declare no key and mark no link
  have unlinked : (∀ change ∈ constraintChanges (name, kind), change.mark.isLink = false) →
      constraintKeys state.table.name (name, kind) = [] → (state.apply name kind).Agrees := by
    intro noLink none
    rw [state.apply_eq (name, kind), none]
    exact state.agrees_after noLink _ _ agrees
  cases kind with
  | foreignKey columns reference onDelete onUpdate =>
    rw [apply_foreignKey]
    exact state.agrees_foldl_foreignKeyColumn (fun key => table_constraintKeys) agrees
  | primaryKey columns =>
    refine unlinked (fun change member => ?_) rfl
    cases columns with
    | none => cases member
    | some columns => rw [List.mem_singleton.mp member]; rfl
  | unique target =>
    refine unlinked (fun change member => ?_) rfl
    rw [List.mem_singleton.mp member]; rfl
  | index definition =>
    refine unlinked (fun change member => ?_) rfl
    rw [List.mem_singleton.mp member]; rfl
  | _ => exact unlinked (fun change member => absurd member List.not_mem_nil) rfl

theorem agrees_constrained (ids : IdCounter) (dialect : Dialect) (definition : CreateTable) :
    (constrained ids dialect definition).Agrees := by
  rw [constrained, foldl_applyElement]
  exact List.foldlRecOn _ _ (Defining.agrees_start _ _ _ _) fun state agrees constraint _ =>
    state.agrees_apply constraint agrees

/-- A table agrees with the keys that its definition declares, and all of these are its own. -/
theorem agrees_definedTable (ids : IdCounter) (dialect : Dialect) (definition : CreateTable) :
    (∀ key ∈ (definedTable ids dialect definition).foreignKeys,
      key.table = (definedTable ids dialect definition).table.name) ∧
    LinksAgree (definedTable ids dialect definition).table.links
      (definedTable ids dialect definition).foreignKeys := by
  obtain ⟨own, links⟩ := agrees_constrained ids dialect definition
  have decorated := Table.decorate_apart
    ((constrained ids dialect definition).table.mark
      (constrained ids dialect definition).impliedPlaces .primaryKey) definition.properties
  simp only [definedTable, Defining.finish_eq, Table.links, decorated.1, decorated.2.1]
  refine ⟨own, ?_⟩
  rw [← Table.links, Table.links_mark _ _ rfl]
  exact links

/-! All tables. -/

def keysOf (name : String) (keys : List ForeignKey) : List ForeignKey :=
  keys.filter fun key => key.table == name

theorem keysOf_append (name : String) (keys added : List ForeignKey) :
    keysOf name (keys ++ added) = keysOf name keys ++ keysOf name added :=
  List.filter_append _ _

theorem keysOf_own {name : String} {keys : List ForeignKey} (own : ∀ key ∈ keys, key.table = name) :
    keysOf name keys = keys := by
  simpa [keysOf] using own

theorem keysOf_other {name : String} {keys : List ForeignKey}
    (other : ∀ key ∈ keys, key.table ≠ name) : keysOf name keys = [] := by
  simpa [keysOf] using other

structure KeysAgree (tables : List Table) (keys : List ForeignKey) : Prop where
  distinct : (tables.map Table.name).Nodup
  placed : ∀ key ∈ keys, key.table ∈ tables.map Table.name
  agree : ∀ table ∈ tables, LinksAgree table.links (keysOf table.name keys)

/-- A table that is put in the place of one with its name, with its keys in place of the keys that
were there. -/
theorem KeysAgree.replace {tables : List Table} {keys : List ForeignKey}
    (agrees : KeysAgree tables keys) {position : Nat} {table new : Table} {keys' : List ForeignKey}
    (here : tables[position]? = some table) (name : new.name = table.name)
    (others : ∀ other, other ≠ new.name → keysOf other keys' = keysOf other keys)
    (own : LinksAgree new.links (keysOf new.name keys')) :
    KeysAgree (tables.set position new) keys' := by
  obtain ⟨bound, -⟩ := List.getElem?_eq_some_iff.mp here
  have names : (tables.set position new).map Table.name = tables.map Table.name :=
    map_set_eq Table.name here name
  refine ⟨names ▸ agrees.distinct, fun key member => ?_, fun other member => ?_⟩
  · rw [names]
    by_cases same : key.table = new.name
    · rw [same, name]
      exact List.mem_map_of_mem (List.mem_of_getElem? here)
    · have inside : key ∈ keysOf key.table keys' := by simp [keysOf, member]
      rw [others _ same] at inside
      exact agrees.placed key (List.mem_filter.mp inside).1
  · obtain ⟨place, there⟩ := List.mem_iff_getElem?.mp member
    by_cases same : position = place
    · subst same
      rw [List.getElem?_set_self bound, Option.some.injEq] at there
      exact there ▸ own
    · rw [List.getElem?_set_ne same] at there
      rw [others other.name fun equal => ne_of_nodup_map Table.name agrees.distinct here there same
        (name ▸ equal.symm)]
      exact agrees.agree other (List.mem_of_getElem? there)

theorem KeysAgree.append {tables : List Table} {keys : List ForeignKey}
    (agrees : KeysAgree tables keys) {new : Table} {added : List ForeignKey}
    (fresh : new.name ∉ tables.map Table.name) (own : ∀ key ∈ added, key.table = new.name)
    (links : LinksAgree new.links added) : KeysAgree (tables ++ [new]) (keys ++ added) := by
  refine ⟨?_, fun key member => ?_, fun table member => ?_⟩
  · rw [List.map_append, List.nodup_append]
    refine ⟨agrees.distinct, by simp, fun name old other single same => fresh ?_⟩
    simp only [List.map_cons, List.map_nil, List.mem_singleton] at single
    rwa [← single, ← same]
  · rw [List.map_append]
    rcases List.mem_append.mp member with old | later
    · exact List.mem_append_left _ (agrees.placed key old)
    · simp [own key later]
  · rw [keysOf_append]
    rcases List.mem_append.mp member with old | single
    · have none : keysOf table.name added = [] := keysOf_other fun key inside same =>
        fresh ((own key inside).symm.trans same ▸ List.mem_map_of_mem old)
      rw [none, List.append_nil]
      exact agrees.agree table old
    · have none : keysOf new.name keys = [] := keysOf_other fun key inside same =>
        fresh (same ▸ agrees.placed key inside)
      rw [List.mem_singleton.mp single, none, keysOf_own own, List.nil_append]
      exact links

theorem keysAgree_add {state : Collected} (agrees : KeysAgree state.tables state.foreignKeys)
    {defined : DefinedTable} (own : ∀ key ∈ defined.foreignKeys, key.table = defined.table.name)
    (links : LinksAgree defined.table.links defined.foreignKeys) :
    KeysAgree (state.add (.ok defined)).tables (state.add (.ok defined)).foreignKeys := by
  simp only [Collected.add]
  split
  · next position found =>
    obtain ⟨bound, name, -⟩ := List.findIdx?_eq_some_iff_getElem.mp found
    have dropped : keysOf defined.table.name
        (state.foreignKeys.filter fun key => key.table != defined.table.name) = [] :=
      keysOf_other fun key member => by simpa using (List.mem_filter.mp member).2
    refine agrees.replace (List.getElem?_eq_getElem bound) (beq_iff_eq.mp name).symm
      (fun other apart => ?_) ?_
    · have none : keysOf other defined.foreignKeys = [] :=
        keysOf_other fun key member same => apart (same.symm.trans (own key member))
      rw [keysOf_append, none, List.append_nil, keysOf, List.filter_filter]
      refine List.filter_congr fun key _ => ?_
      by_cases same : key.table = other <;> simp [same, apart]
    · rw [keysOf_append, dropped, keysOf_own own, List.nil_append]
      exact links
  · next fresh =>
    refine agrees.append (fun member => ?_) own links
    obtain ⟨table, inside, name⟩ := List.mem_map.mp member
    simpa [name] using List.findIdx?_eq_none_iff.mp fresh table inside

theorem keysAgree_collect (ids : IdCounter) (definitions : List (Dialect × CreateTable)) :
    KeysAgree (collect (defineTables ids definitions).1).tables
      (collect (defineTables ids definitions).1).foreignKeys := by
  refine collect_holds (fun state => KeysAgree state.tables state.foreignKeys)
    ⟨by simp, by simp, by simp⟩ _ fun state agrees outcome member => ?_
  cases outcome with
  | error problem => exact agrees
  | ok defined =>
    obtain ⟨ids, dialect, definition, rfl⟩ := mem_defineTables member
    obtain ⟨own, links⟩ := agrees_definedTable ids dialect definition
    exact keysAgree_add agrees own links

/-! The merge. -/

def Table.linkage (table : Table) : String × List (String × Option Target) :=
  (table.name, table.links)

theorem KeysAgree.congr {tables others : List Table} {keys : List ForeignKey}
    (agrees : KeysAgree tables keys) (same : others.map Table.linkage = tables.map Table.linkage) :
    KeysAgree others keys := by
  have names : others.map Table.name = tables.map Table.name := by
    simpa [Function.comp_def, Table.linkage] using congrArg (List.map Prod.fst) same
  refine ⟨names ▸ agrees.distinct, names ▸ agrees.placed, fun table member => ?_⟩
  obtain ⟨other, inside, equal⟩ := List.mem_map.mp (same ▸ List.mem_map_of_mem (f := Table.linkage) member)
  have name : other.name = table.name := congrArg Prod.fst equal
  have links : other.links = table.links := congrArg Prod.snd equal
  rw [← name, ← links]
  exact agrees.agree other inside

theorem noLink_amendments {alter : AlterConstraints} {amendment : Amendment} {change : Change}
    (member : amendment ∈ alter.amendments) (inside : change ∈ amendment.changes) :
    change.mark.isLink = false := by
  simp only [AlterConstraints.amendments, List.mem_append, List.mem_map] at member
  rcases member with ((⟨clause, -, rfl⟩ | ⟨clause, -, rfl⟩) | ⟨clause, -, rfl⟩) | ⟨clause, -, rfl⟩
  · simp only [PrimaryKeyClause.amendment, List.mem_cons, List.not_mem_nil, or_false] at inside
    rcases inside with rfl | rfl <;> rfl
  · rw [List.mem_singleton.mp inside]; rfl
  · rw [List.mem_singleton.mp inside]; rfl
  · rw [List.mem_singleton.mp inside]; rfl

/-- Among the clauses only foreign keys touch links. -/
theorem linkage_amended (tables : List Table) (alter : AlterConstraints) (ids : IdCounter) :
    (amended tables alter ids).1.map Table.linkage = tables.map Table.linkage := by
  refine map_foldl_changeNamed Table.linkage _ _ fun changes member table ids => ?_
  obtain ⟨amendment, inside, rfl⟩ := List.mem_map.mp member
  have name := Table.name_of_outline (Change.outline_applyAll (table, ids) amendment.changes)
  have links := Change.links_applyAll (table, ids) fun change there => noLink_amendments inside there
  simp only [Table.linkage, links, name]

theorem KeysAgree.link {tables : List Table} {keys : List ForeignKey} (agrees : KeysAgree tables keys)
    (ids : IdCounter) (key : ForeignKey) :
    KeysAgree (changeNamed (tables, ids) key.change).1 (keys ++ (acceptedKey? tables key).toList) := by
  rw [changeNamed_link]
  simp only [acceptedKey?]
  cases resolution : resolveForeignKey tables key with
  | error warning => simpa using agrees
  | ok found =>
    obtain ⟨position, place, resolved⟩ := found
    obtain ⟨table, column, -, here, -, there, same⟩ := resolveForeignKey_eq_ok resolution
    have owner : resolved.table = table.name := by rw [same]
    have named : resolved.column = column.name := by rw [same]
    have target : resolved.target = key.target := by rw [same]
    obtain ⟨bound, rfl⟩ := List.getElem?_eq_some_iff.mp here
    simp only [Option.toList_some, ← target]
    rw [← set_getElem_eq_modify _ _ _ bound]
    -- for other tables the key is none of theirs; for its own table it comes last, as the link does
    refine agrees.replace here rfl (fun other apart => ?_) ?_
    · have none : keysOf other [resolved] = [] := keysOf_other fun key member same => by
        rw [List.mem_singleton.mp member, owner] at same
        exact apart same.symm
      rw [keysOf_append, none, List.append_nil]
    · have own : keysOf tables[position].name [resolved] = [resolved] :=
        keysOf_own fun key member => by rw [List.mem_singleton.mp member, owner]
      have agree := Table.agree_link (agrees.agree _ (List.getElem_mem bound)) there named
      simpa [keysOf_append, Table.mark, own] using agree

theorem KeysAgree.foldl_link {tables : List Table} {keys : List ForeignKey}
    (agrees : KeysAgree tables keys) (ids : IdCounter) (added : List ForeignKey) :
    KeysAgree ((added.map ForeignKey.change).foldl changeNamed (tables, ids)).1
      (keys ++ added.filterMap (acceptedKey? tables)) := by
  induction added generalizing tables keys with
  | nil => simpa using agrees
  | cons key rest ih =>
    have same := outlines_changeNamed (tables, ids) key.change
    have later := ih (agrees.link ids key)
    have split : keys ++ (key :: rest).filterMap (acceptedKey? tables) =
        keys ++ (acceptedKey? tables key).toList ++ rest.filterMap (acceptedKey? tables) := by
      cases kept : acceptedKey? tables key <;> simp [kept]
    have state : changeNamed (tables, ids) key.change =
        ((changeNamed (tables, ids) key.change).1, ids) :=
      Prod.ext rfl (changeNamed_link_ids _ _)
    rw [split, List.map_cons, List.foldl_cons, state]
    rwa [acceptedKey?_congr same] at later

theorem keysAgree_mergedTables {tables : List Table} {keys : List ForeignKey}
    (agrees : KeysAgree tables keys) (alter : AlterConstraints) (ids : IdCounter) :
    KeysAgree (mergedTables tables alter ids).1 (mergedKeys tables keys alter) := by
  have same : (amended tables alter ids).1.map Table.outline = tables.map Table.outline :=
    outlines_foldl_changeNamed _ _
  have linked := (agrees.congr (linkage_amended tables alter ids)).foldl_link
    (amended tables alter ids).2 alter.foreignKeys
  simp only [mergedTables, mergedKeys, AlterConstraints.changes, List.foldl_append]
  rwa [acceptedKey?_congr same] at linked

/-! Both directions of the agreement. -/

/-- The last key of the list for this column of this table. -/
def lastKey? (keys : List ForeignKey) (table column : String) : Option ForeignKey :=
  (keys.filter fun key => key.table == table && key.column == column).getLast?

structure ForeignKeysAgree (tables : List Table) (keys : List ForeignKey) : Prop where
  /-- A key is of one table only. -/
  distinct : (tables.map Table.name).Nodup
  flagged : ∀ key ∈ keys, ∃ table ∈ tables, table.name = key.table ∧
    ∃ column ∈ table.columns, column.name = key.column ∧ column.isForeignKey = true
  listed : ∀ table ∈ tables, ∀ column ∈ table.columns, column.isForeignKey = true →
    ∃ key ∈ keys, key.table = table.name ∧ key.column = column.name
  pointed : ∀ table ∈ tables, (table.columns.map Column.name).Nodup →
    ∀ column ∈ table.columns, column.isForeignKey = true →
      ∃ key, lastKey? keys table.name column.name = some key ∧ column.target = some key.target
  unflagged : ∀ table ∈ tables, ∀ column ∈ table.columns, column.isForeignKey = false →
    column.target = none

theorem KeysAgree.foreignKeysAgree {tables : List Table} {keys : List ForeignKey}
    (agrees : KeysAgree tables keys) : ForeignKeysAgree tables keys := by
  have linked : ∀ {table : Table} {column : Column}, column ∈ table.columns →
      (column.name, column.target) ∈ table.links := fun there => List.mem_map_of_mem there
  refine ⟨agrees.distinct, fun key member => ?_, fun table inside column there flag => ?_,
    fun table inside distinct column there flag => ?_, fun table _ column _ flag => ?_⟩
  · obtain ⟨table, inside, name⟩ := List.mem_map.mp (agrees.placed key member)
    have own : key ∈ keysOf table.name keys := by simp [keysOf, member, name]
    obtain ⟨target, link⟩ := (agrees.agree table inside).flagged key own
    obtain ⟨column, there, same⟩ := List.mem_map.mp link
    rw [Prod.mk.injEq] at same
    exact ⟨table, inside, name, column, there, same.1, by simp [Column.isForeignKey, same.2]⟩
  · obtain ⟨target, points⟩ := Option.isSome_iff_exists.mp flag
    obtain ⟨key, own, name⟩ := (agrees.agree table inside).listed column.name target
      (points ▸ linked there)
    obtain ⟨member, owner⟩ := List.mem_filter.mp own
    exact ⟨key, member, beq_iff_eq.mp owner, name⟩
  · -- where columns have names of their own, the last key for the name is the last one for the column
    have names : (table.links.map Prod.fst).Nodup := by
      simpa [Table.links, Function.comp_def] using distinct
    have last := (agrees.agree table inside).pointed names _ _ (linked there)
    have both : lastTarget? (keysOf table.name keys) column.name =
        (lastKey? keys table.name column.name).map ForeignKey.target := by
      simp only [lastTarget?, lastKey?, keysOf, List.filter_filter, Bool.and_comm]
    obtain ⟨target, points⟩ := Option.isSome_iff_exists.mp flag
    rw [both, points] at last
    obtain ⟨key, found, same⟩ := Option.map_eq_some_iff.mp last.symm
    exact ⟨key, found, points.trans (congrArg some same.symm)⟩
  · simpa [Column.isForeignKey] using flag

theorem KeysAgree.withCardinality {tables : List Table} {keys : List ForeignKey}
    (agrees : KeysAgree tables keys) (final : List Table) :
    KeysAgree tables (keys.map (withCardinality final)) := by
  have split : ∀ name, keysOf name (keys.map (Schema.withCardinality final)) =
      (keysOf name keys).map (Schema.withCardinality final) := fun name => by
    simp only [keysOf, List.filter_map]
    rfl
  have last : ∀ keys column, lastTarget? (keys.map (Schema.withCardinality final)) column =
      lastTarget? keys column := fun keys column => by
    simp only [lastTarget?, List.filter_map, List.getLast?_map, Option.map_map]
    rfl
  refine ⟨agrees.distinct, fun key member => ?_, fun table inside => ?_⟩
  · obtain ⟨before, there, rfl⟩ := List.mem_map.mp member
    exact agrees.placed before there
  · obtain ⟨flagged, listed, pointed⟩ := agrees.agree table inside
    rw [split]
    refine ⟨fun key member => ?_, fun name target link => ?_, fun distinct name target link => ?_⟩
    · obtain ⟨before, there, rfl⟩ := List.mem_map.mp member
      exact flagged before there
    · obtain ⟨key, there, same⟩ := listed name target link
      exact ⟨_, List.mem_map_of_mem there, same⟩
    · rw [last]
      exact pointed distinct name target link

theorem foreignKeysAgree_schemaOf (definitions : List (Dialect × CreateTable))
    (alter : AlterConstraints) :
    ForeignKeysAgree (schemaOf definitions alter).tables (schemaOf definitions alter).foreignKeys := by
  simp only [schemaOf, merge_eq]
  exact ((keysAgree_mergedTables (keysAgree_collect .start definitions) alter _).withCardinality
    _).foreignKeysAgree

/-- The list of foreign keys and the columns of a result agree in both directions. -/
theorem foreign_keys_agree (cut : Splitter) (read : TableReader) (options : ParseOptions) :
    (∀ selection alter, ForeignKeysAgree (assemble selection alter).result.tables
      (assemble selection alter).result.foreignKeys) ∧
    (∀ script run, parseWith cut read options script = .ok run →
      ForeignKeysAgree run.result.tables run.result.foreignKeys) := by
  have nothing : ForeignKeysAgree [] [] := by constructor <;> simp
  refine ⟨fun selection alter => ?_, fun script run parsed => ?_⟩
  · exact assemble_holds ForeignKeysAgree nothing
      (fun definitions => foreignKeysAgree_schemaOf definitions alter) selection
  · rw [parseWith_eq_ok parsed]
    exact parsePrepared_holds ForeignKeysAgree nothing
      (fun definitions => foreignKeysAgree_schemaOf definitions _) read options run.prepared

theorem foreign_keys_agree_single :
    let column : Element := .column ⟨⟨"a", false⟩, none, [⟨none, .reference ⟨"u", [], []⟩⟩]⟩
    let read : TableReader := fun _ _ => .ok [⟨"t", some [column], []⟩]
    ∃ run, parseWith split read ⟨[.sqlite], false⟩ "CREATE TABLE t (a REFERENCES u)".toList = .ok run ∧
      run.result.foreignKeys ≠ [] ∧ ForeignKeysAgree run.result.tables run.result.foreignKeys := by
  intro column read
  have parsed : (match parseWith split read ⟨[.sqlite], false⟩
        "CREATE TABLE t (a REFERENCES u)".toList with
      | .ok run => !run.result.foreignKeys.isEmpty
      | .error _ => false) = true := by
    decide +kernel
  split at parsed
  · next run outcome =>
    have agree := (foreign_keys_agree split read ⟨[.sqlite], false⟩).2 _ run outcome
    exact ⟨run, outcome, by simpa using parsed, agree⟩
  · cases parsed

end DdlSchema.Schema
