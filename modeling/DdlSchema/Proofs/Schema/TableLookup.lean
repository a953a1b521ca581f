import Mathlib.Data.List.Induction
import DdlSchema.Proofs.Schema.Outline
import DdlSchema.Proofs.Text.Lowering
import DdlSchema.Schema.Parse

/-! Which table a name stands for, in a merge and in a result. A merge looks names up in one index that
holds every table under its own name and under that name in lower case; a result is searched for the name
first and for its lower case afterwards. The two part where a table has a lower case name that another
one, further to the front, has in lower case only. -/

set_option autoImplicit false

namespace DdlSchema.Schema

open DdlSchema.Text

/-! The index of a merge. -/

/-- Enters a table: its own name in any case, its lower case name unless that is taken. -/
def enterName (index : String → Option Nat) (entry : String × Nat) : String → Option Nat :=
  fun key =>
    if key = entry.1 then some entry.2
    else (index key).or (if key = lowerString entry.1 then some entry.2 else none)

def nameIndex (names : List String) : String → Option Nat :=
  names.zipIdx.foldl enterName fun _ => none

theorem nameIndex_concat (names : List String) (name : String) :
    nameIndex (names ++ [name]) = enterName (nameIndex names) (name, names.length) := by
  simp [nameIndex, List.zipIdx_append]

theorem lastNamed?_concat (names : List String) (name key : String) :
    lastNamed? (names ++ [name]) key = enterName (lastNamed? names) (name, names.length) key := by
  simp only [lastNamed?, enterName, List.reverse_append, List.reverse_singleton, List.singleton_append,
    List.findIdx?_cons, List.findIdx?_append, List.length_append, List.length_singleton, beq_iff_eq,
    List.findIdx?_nil, Nat.add_sub_cancel]
  by_cases own : name = key
  · subst own; simp
  · simp only [own, Ne.symm own, if_false]
    cases names.reverse.findIdx? (· == key) with
    | some fromEnd =>
      simp only [Option.map_some, Option.some_or, Option.some.injEq]
      omega
    | none => simp [eq_comm]

theorem lastNamed?_eq_nameIndex (names : List String) : lastNamed? names = nameIndex names := by
  induction names using List.reverseRecOn with
  | nil => rfl
  | append_singleton names name ih =>
    funext key
    rw [lastNamed?_concat, nameIndex_concat, ih]

theorem exactTable?_eq_nameIndex (tables : List Table) :
    exactTable? tables = nameIndex (tables.map Table.name) := by
  funext key
  rw [exactTable?_eq_lastNamed?, lastNamed?_eq_nameIndex]

/-! Names that no table has as they are written. -/

theorem exactTable?_of_not_mem {tables : List Table} {name : String}
    (unused : name ∉ tables.map Table.name) :
    exactTable? tables name = (tables.map Table.name).findIdx? fun other => lowerString other == name := by
  have none : (tables.map Table.name).reverse.findIdx? (· == name) = none := by
    rw [List.findIdx?_eq_none_iff]
    intro other member
    exact beq_eq_false_iff_ne.mpr fun same => unused (same ▸ List.mem_reverse.mp member)
  rw [exactTable?_eq_lastNamed?, lastNamed?, none]

theorem namePosition?_of_not_mem {names : List String} {name : String} (unused : name ∉ names) :
    namePosition? names name = names.findIdx? fun other => lowerString other == lowerString name := by
  have none : names.findIdx? (· == name) = none := by
    rw [List.findIdx?_eq_none_iff]
    intro other member
    exact beq_eq_false_iff_ne.mpr fun same => unused (same ▸ member)
  rw [namePosition?, none]

theorem findTable?_of_none {tables : List Table} {name : String}
    (unknown : exactTable? tables name = none) :
    findTable? tables name = exactTable? tables (lowerString name) := by
  simp [findTable?, unknown]

/-- The name is nobody's as it is written, somebody's in lower case, and someone further to the front
has the same lower case. -/
structure Shadowed (names : List String) (name : String) : Prop where
  unused : name ∉ names
  behind : ∃ place position : Nat, place < position ∧ names[position]? = some (lowerString name) ∧
    names[place]?.map lowerString = some (lowerString name)

theorem findIdx?_lowerString {names : List String} {name : String} {position : Nat}
    (here : names[position]?.map lowerString = some (lowerString name)) :
    ∃ first ≤ position, (names.findIdx? fun other => lowerString other == lowerString name) = some first ∧
      names[first]?.map lowerString = some (lowerString name) := by
  obtain ⟨other, there, same⟩ := Option.map_eq_some_iff.mp here
  obtain ⟨bound, rfl⟩ := List.getElem?_eq_some_iff.mp there
  cases found : names.findIdx? fun other => lowerString other == lowerString name with
  | none =>
    have apart := List.findIdx?_eq_none_iff.mp found _ (List.getElem_mem bound)
    exact absurd same (by simpa using apart)
  | some first =>
    obtain ⟨inside, fits, earlier⟩ := List.findIdx?_eq_some_iff_getElem.mp found
    refine ⟨first, Nat.le_of_not_lt fun before => earlier position before (by simpa using same), rfl, ?_⟩
    simpa [List.getElem?_eq_getElem inside] using fits

section

variable {tables : List Table} (distinct : (tables.map Table.name).Nodup) (name : String)

include distinct

theorem namePosition?_own {position : Nat} {table : Table} (here : tables[position]? = some table) :
    namePosition? (tables.map Table.name) table.name = some position := by
  obtain ⟨bound, rfl⟩ := List.getElem?_eq_some_iff.mp here
  have first : (tables.map Table.name).findIdx? (· == tables[position].name) = some position := by
    rw [List.findIdx?_eq_some_iff_getElem]
    refine ⟨by simpa using bound, by simp, fun earlier less => ?_⟩
    simp only [List.getElem_map, beq_iff_eq]
    have there : tables[earlier]? = some tables[earlier] := List.getElem?_eq_getElem (by omega)
    exact ne_of_nodup_map Table.name distinct there here (Nat.ne_of_lt less)
  rw [namePosition?, first]

theorem findTable?_eq_namePosition? (clear : ¬ Shadowed (tables.map Table.name) name) :
    findTable? tables name = namePosition? (tables.map Table.name) name := by
  by_cases used : name ∈ tables.map Table.name
  · obtain ⟨table, member, rfl⟩ := List.mem_map.mp used
    obtain ⟨position, here⟩ := List.mem_iff_getElem?.mp member
    rw [findTable?_own distinct here, namePosition?_own distinct here]
  · have exact := exactTable?_of_not_mem used
    rw [namePosition?_of_not_mem used]
    cases found : (tables.map Table.name).findIdx? fun other => lowerString other == name with
    | some place =>
      -- the name is in lower case itself
      obtain ⟨inside, fits, -⟩ := List.findIdx?_eq_some_iff_getElem.mp found
      have small : lowerString name = name := by
        rw [← beq_iff_eq.mp fits, lowerString_lowerString]
      rw [small, found]
      simp [findTable?, exact, found]
    | none =>
      rw [findTable?_of_none (exact.trans found)]
      by_cases taken : lowerString name ∈ tables.map Table.name
      · obtain ⟨table, member, same⟩ := List.mem_map.mp taken
        obtain ⟨position, here⟩ := List.mem_iff_getElem?.mp member
        have own : (tables.map Table.name)[position]? = some (lowerString name) := by simp [here, same]
        have lowered : (tables.map Table.name)[position]?.map lowerString = some (lowerString name) := by
          rw [own, Option.map_some, lowerString_lowerString]
        obtain ⟨first, behind, reached, fits⟩ := findIdx?_lowerString lowered
        rw [← same, exactTable?_own distinct here, same, reached, Option.some_inj]
        by_contra apart
        exact clear ⟨used, first, position, by omega, own, fits⟩
      · rw [exactTable?_of_not_mem taken]

theorem findTable?_of_shadowed (shadowed : Shadowed (tables.map Table.name) name) :
    ∃ place position, place < position ∧ findTable? tables name = some position ∧
      (tables.map Table.name)[position]? = some (lowerString name) ∧
      namePosition? (tables.map Table.name) name = some place := by
  obtain ⟨unused, place, position, before, own, fits⟩ := shadowed
  obtain ⟨first, front, reached, -⟩ := findIdx?_lowerString fits
  obtain ⟨table, here, same⟩ : ∃ table, tables[position]? = some table ∧
      table.name = lowerString name := by
    simpa using own
  have small : ((tables.map Table.name).findIdx? fun other => lowerString other == name) = none := by
    rw [List.findIdx?_eq_none_iff]
    intro other _
    -- else the name would be its own lower case, which is in use
    refine beq_eq_false_iff_ne.mpr fun equal => unused ?_
    have lower : lowerString name = name := by rw [← equal, lowerString_lowerString]
    exact List.mem_of_getElem? (lower ▸ own)
  refine ⟨first, position, by omega, ?_, own, by rw [namePosition?_of_not_mem unused, reached]⟩
  rw [findTable?_of_none ((exactTable?_of_not_mem unused).trans small), ← same,
    exactTable?_own distinct here]

end

def alteredTable? (tables : List Table) (name : String) : Option Table :=
  (findTable? tables name).bind fun position => tables[position]?

theorem alteredTable?_eq_none {tables : List Table} {name : String} :
    alteredTable? tables name = none ↔ findTable? tables name = none := by
  cases found : findTable? tables name with
  | none => simp [alteredTable?, found]
  | some position => simp [alteredTable?, found, findTable?_lt found]

theorem table?_eq_none {result : ParseResult} {name : String} :
    result.table? name = none ↔ namePosition? (result.tables.map Table.name) name = none := by
  cases found : namePosition? (result.tables.map Table.name) name with
  | none => simp [ParseResult.table?, found]
  | some position =>
    have bound : position < result.tables.length := by simpa using namePosition?_lt found
    simp [ParseResult.table?, found, bound]

/-- Among tables of distinct names, a merge reads its index and finds a table exactly where a search of
the result does. It is the same table unless the name is shadowed, when the merge takes the one of the
lower case name and the search one further to the front. -/
theorem table_lookups_agree_iff (result : ParseResult)
    (distinct : (result.tables.map Table.name).Nodup) (name : String) :
    exactTable? result.tables = nameIndex (result.tables.map Table.name) ∧
    (alteredTable? result.tables name = none ↔ result.table? name = none) ∧
    (alteredTable? result.tables name = result.table? name ↔
      ¬ Shadowed (result.tables.map Table.name) name) ∧
    (Shadowed (result.tables.map Table.name) name → ∃ place position : Nat, place < position ∧
      alteredTable? result.tables name = result.tables[position]? ∧
      (result.tables.map Table.name)[position]? = some (lowerString name) ∧
      result.table? name = result.tables[place]?) := by
  refine ⟨exactTable?_eq_nameIndex _, ?_, ⟨fun same shadowed => ?_, fun clear => ?_⟩,
    fun shadowed => ?_⟩
  · rw [alteredTable?_eq_none, table?_eq_none]
    by_cases shadowed : Shadowed (result.tables.map Table.name) name
    · obtain ⟨place, position, -, found, -, searched⟩ := findTable?_of_shadowed distinct name shadowed
      simp [found, searched]
    · rw [findTable?_eq_namePosition? distinct name shadowed]
  · obtain ⟨place, position, before, found, -, searched⟩ :=
      findTable?_of_shadowed distinct name shadowed
    have bound := findTable?_lt found
    have front : place < result.tables.length := by omega
    rw [alteredTable?, ParseResult.table?, found, searched, Option.bind_some, Option.bind_some,
      List.getElem?_eq_getElem bound, List.getElem?_eq_getElem front, Option.some_inj] at same
    exact ne_of_nodup_map Table.name distinct (List.getElem?_eq_getElem front)
      (List.getElem?_eq_getElem bound) (Nat.ne_of_lt before) (congrArg Table.name same.symm)
  · rw [alteredTable?, ParseResult.table?, findTable?_eq_namePosition? distinct name clear]
  · obtain ⟨place, position, before, found, own, searched⟩ :=
      findTable?_of_shadowed distinct name shadowed
    exact ⟨place, position, before, by rw [alteredTable?, found, Option.bind_some], own,
      by rw [ParseResult.table?, searched, Option.bind_some]⟩

theorem table_lookups_agree_iff_reversed :
    let result : ParseResult := { tables := [{ name := "users" }, { name := "USERS" }] }
    let reversed : ParseResult := { tables := result.tables.reverse }
    (result.tables.map Table.name).Nodup ∧ (reversed.tables.map Table.name).Nodup ∧
    ¬ Shadowed (result.tables.map Table.name) "Users" ∧
    alteredTable? result.tables "Users" = result.table? "Users" ∧
    Shadowed (reversed.tables.map Table.name) "Users" ∧
    ∃ place position : Nat, place < position ∧
      alteredTable? reversed.tables "Users" = reversed.tables[position]? ∧
      reversed.table? "Users" = reversed.tables[place]? := by
  intro result reversed
  have distinct : (result.tables.map Table.name).Nodup := by decide
  have apart : (reversed.tables.map Table.name).Nodup := by decide
  have same : alteredTable? result.tables "Users" = result.table? "Users" := by decide +kernel
  have shadowed : Shadowed (reversed.tables.map Table.name) "Users" :=
    ⟨by decide, 0, 1, by decide +kernel⟩
  have clear := (table_lookups_agree_iff result distinct "Users").2.2.1.mp same
  obtain ⟨place, position, before, altered, -, searched⟩ :=
    (table_lookups_agree_iff reversed apart "Users").2.2.2 shadowed
  exact ⟨distinct, apart, clear, same, shadowed, place, position, before, altered, searched⟩

/-- A name in a third spelling: the merge changes the later table, the search meets the earlier one. -/
theorem table_lookups_differ :
    let result : ParseResult := { tables := [{ name := "USERS" }, { name := "users" }] }
    (result.tables.map Table.name).Nodup ∧
    (alteredTable? result.tables "Users").map Table.name = some "users" ∧
    (result.table? "Users").map Table.name = some "USERS" := by
  decide +kernel

end DdlSchema.Schema
