import DdlSchema.Proofs.Schema.Declaration
import DdlSchema.Proofs.Schema.Screened

/-! The order of the constraints of a column. A flag is set if some constraint sets it, and a value is the one
that the last constraint gives, so only constraints that give the same value can be in each other's way. The
one conflict between two kinds, a key that takes nulls, is settled when the column is closed. -/

set_option autoImplicit false

namespace DdlSchema.Schema

open DdlSchema.Ddl

/-! What constraints say. -/

def nullability? : Constraint → Option Bool
  | .nullability allowed => some allowed
  | _ => none

def default? : Constraint → Option Expr
  | .default value => some value
  | _ => none

def collation? : Constraint → Option String
  | .collate name => some name
  | _ => none

def comment? : Constraint → Option String
  | .comment text => some text
  | _ => none

def said {α : Type} (value? : Constraint → Option α) (constraints : List ColumnConstraint) : List α :=
  constraints.filterMap fun constraint => value? constraint.kind

/-- No value is given twice. -/
structure Unambiguous (constraints : List ColumnConstraint) : Prop where
  nullability : (said nullability? constraints).length ≤ 1
  default : (said default? constraints).length ≤ 1
  collation : (said collation? constraints).length ≤ 1
  comment : (said comment? constraints).length ≤ 1

/-- No constraint is a reference, which would end them. -/
def Unlinked (constraints : List ColumnConstraint) : Prop :=
  ∀ constraint ∈ constraints, isReference constraint.kind = false

theorem said_perm {α : Type} {value? : Constraint → Option α}
    {constraints reordered : List ColumnConstraint} (same : constraints.Perm reordered)
    (once : (said value? constraints).length ≤ 1) : said value? constraints = said value? reordered := by
  have values : (said value? constraints).Perm (said value? reordered) := same.filterMap _
  match given : said value? constraints, once with
  | [], _ =>
    rw [given] at values
    exact (List.nil_perm.mp values).symm
  | [value], _ =>
    rw [given] at values
    exact List.singleton_perm.mp values

/-! What becomes of the column. -/

section

variable {dialect : Dialect} {constraints : List ColumnConstraint}

theorem Column.declare_latest {α β : Type} (reading : Column → β) (value? : Constraint → Option α)
    (written : α → β)
    (applied : ∀ constraint ∈ effective constraints, ∀ column : Column,
      reading (column.apply dialect constraint.kind) =
        ((value? constraint.kind).map written).getD (reading column)) (column : Column) :
    reading (column.declare dialect constraints) =
      ((said value? (effective constraints)).getLast?.map written).getD (reading column) := by
  unfold declare said
  generalize effective constraints = counting at applied
  induction counting generalizing column with
  | nil => rfl
  | cons constraint rest ih =>
    rw [List.foldl_cons, ih _ fun later member => applied later (List.mem_cons_of_mem _ member),
      applied constraint List.mem_cons_self]
    cases given : value? constraint.kind with
    | none =>
      have skipped : (constraint :: rest).filterMap (fun constraint => value? constraint.kind) =
          rest.filterMap fun constraint => value? constraint.kind := List.filterMap_cons_none given
      rw [skipped, Option.map_none, Option.getD_none]
    | some value =>
      have first : (constraint :: rest).filterMap (fun constraint => value? constraint.kind) =
          value :: rest.filterMap fun constraint => value? constraint.kind := List.filterMap_cons_some given
      rw [first, List.getLast?_cons, Option.map_some, Option.getD_some]
      cases (rest.filterMap fun constraint => value? constraint.kind).getLast? <;> rfl

theorem Column.closed_declare (column : Column) :
    ((column.declare dialect constraints).isNullable && !(column.declare dialect constraints).isPrimaryKey) =
      ((said nullability? (effective constraints)).getLast?.getD column.isNullable &&
        !(column.isPrimaryKey || declaresColumnKey constraints)) := by
  rw [column.isPrimaryKey_declare dialect constraints]
  cases keyed : column.isPrimaryKey || declaresColumnKey constraints with
  | true => rw [Bool.not_true, Bool.and_false, Bool.and_false]
  | false =>
    -- no constraint is the one for keys, which closes the column as well
    have keyless := List.any_eq_false.mp (Bool.or_eq_false_iff.mp keyed).2
    have applied : ∀ constraint ∈ effective constraints, ∀ column : Column,
        (column.apply dialect constraint.kind).isNullable =
          ((nullability? constraint.kind).map fun allowed => allowed).getD column.isNullable := by
      intro constraint member column
      have other := Bool.eq_false_iff.mpr (keyless constraint member)
      unfold apply nullability?
      split <;> simp_all [isColumnKey, markUnique]
    rw [Bool.not_false, Bool.and_true, Bool.and_true, declare_latest isNullable nullability? _ applied,
      Option.map_id']

theorem Column.close_declare (column : Column) :
    (column.declare dialect constraints).close =
      { column with
        isPrimaryKey := column.isPrimaryKey || declaresColumnKey constraints
        isNullable := (said nullability? (effective constraints)).getLast?.getD column.isNullable &&
          !(column.isPrimaryKey || declaresColumnKey constraints)
        isUnique := column.isUnique || declaresColumnUnique constraints
        autoIncrement := column.autoIncrement ||
          (effective constraints).any fun constraint => countsUp constraint.kind
        defaultValue := ((said default? (effective constraints)).getLast?.map fun value =>
          some (value.asDefault dialect)).getD column.defaultValue
        collation := ((said collation? (effective constraints)).getLast?.map some).getD column.collation
        comment := ((said comment? (effective constraints)).getLast?.map some).getD column.comment } := by
  have kept : ∀ {α : Type} (reading : Column → α),
      (∀ (column : Column) kind, reading (column.apply dialect kind) = reading column) →
      reading (column.declare dialect constraints) = reading column :=
    fun reading leaves => declare_kept reading dialect leaves column constraints
  have latest : ∀ {α : Type} (reading : Column → Option String) (value? : Constraint → Option α)
      (written : α → Option String),
      (∀ (column : Column) kind, reading (column.apply dialect kind) =
        ((value? kind).map written).getD (reading column)) →
      reading (column.declare dialect constraints) =
        ((said value? (effective constraints)).getLast?.map written).getD (reading column) :=
    fun reading value? written applied => declare_latest reading value? written
      (fun constraint _ column => applied column constraint.kind) column
  -- a field is kept, set by any constraint that sets it, or set by the last one that does
  simp only [close, Column.mk.injEq]
  refine ⟨kept _ ?_, kept _ ?_, kept _ ?_, column.isPrimaryKey_declare dialect constraints, kept _ ?_,
    column.closed_declare, column.isUnique_declare dialect constraints, kept _ ?_,
    column.autoIncrement_declare dialect constraints, latest _ default? _ ?_, latest _ collation? _ ?_,
    latest _ comment? _ ?_⟩
  all_goals
    intro column kind
    cases kind with
    | primaryKey columns => cases columns <;> rfl
    | identity expression => cases expression <;> rfl
    | _ => rfl

end

/-! Constraints in another order. -/

section

variable {constraints reordered : List ColumnConstraint}

theorem effective_append (unlinked : Unlinked constraints) (rest : List ColumnConstraint) :
    effective (constraints ++ rest) = constraints ++ effective rest :=
  List.takeWhile_append_of_pos fun constraint member => by rw [unlinked constraint member]; rfl

theorem effective_unlinked (unlinked : Unlinked constraints) : effective constraints = constraints := by
  have none : effective [] = [] := rfl
  have whole := effective_append unlinked []
  rwa [List.append_nil, none, List.append_nil] at whole

theorem effective_cut (unlinked : Unlinked constraints) (name : Option String) (reference : Reference)
    (behind : List ColumnConstraint) :
    effective (constraints ++ ⟨name, .reference reference⟩ :: behind) = constraints :=
  (effective_append unlinked _).trans (List.append_nil _)

theorem Unlinked.perm (unlinked : Unlinked constraints) (same : constraints.Perm reordered) :
    Unlinked reordered := fun constraint member => unlinked constraint (same.mem_iff.mpr member)

theorem inlineReference?_append (unlinked : Unlinked constraints) (rest : List ColumnConstraint) :
    inlineReference? (constraints ++ rest) = inlineReference? rest := by
  unfold inlineReference?
  rw [List.findSome?_append, List.findSome?_eq_none_iff.mpr, Option.none_or]
  intro constraint member
  have other := unlinked constraint member
  split
  · next reference kind =>
    rw [kind] at other
    cases other
  · rfl

theorem Column.close_declare_congr {dialect : Dialect} (column : Column)
    (same : (effective constraints).Perm (effective reordered))
    (unambiguous : Unambiguous (effective constraints)) :
    (column.declare dialect constraints).close = (column.declare dialect reordered).close := by
  rw [close_declare, close_declare, declaresColumnKey, declaresColumnKey, declaresColumnUnique,
    declaresColumnUnique, same.any_eq, same.any_eq, same.any_eq, said_perm same unambiguous.nullability,
    said_perm same unambiguous.default, said_perm same unambiguous.collation,
    said_perm same unambiguous.comment]

theorem defineColumn_congr {dialect : Dialect} {table id name : String} {type : Option DataType}
    (linked : inlineReference? constraints = inlineReference? reordered)
    (declared : ((Column.fresh id name type).declare dialect constraints).close =
      ((Column.fresh id name type).declare dialect reordered).close) :
    defineColumn table dialect id (name, type, constraints) =
      defineColumn table dialect id (name, type, reordered) := by
  have link : ∀ (column : Column) target,
      (column.markForeignKey target).close = column.close.markForeignKey target := fun _ _ => rfl
  simp only [defineColumn, Column.applyAll_eq, linked]
  cases inlineReference? reordered with
  | none => exact congrArg (·, none) declared
  | some inline => simp only [link, declared]

end

/-- Constraints that give no value twice may stand in any order. A reference ends them: the column and its
key are those of the definition up to it, and what stands before it may again stand in any order. -/
theorem constraints_unordered (table : String) (dialect : Dialect) (id name : String)
    (type : Option DataType) :
    (∀ constraints reordered, constraints.Perm reordered → Unlinked constraints →
      Unambiguous constraints →
      defineColumn table dialect id (name, type, reordered) =
        defineColumn table dialect id (name, type, constraints)) ∧
    (∀ constraints label reference behind, Unlinked constraints →
      defineColumn table dialect id (name, type, constraints ++ ⟨label, .reference reference⟩ :: behind) =
        defineColumn table dialect id (name, type, constraints ++ [⟨label, .reference reference⟩])) ∧
    ∀ constraints reordered label reference behind, constraints.Perm reordered → Unlinked constraints →
      Unambiguous constraints →
      defineColumn table dialect id (name, type, reordered ++ ⟨label, .reference reference⟩ :: behind) =
        defineColumn table dialect id (name, type, constraints ++ [⟨label, .reference reference⟩]) := by
  refine ⟨fun constraints reordered same unlinked unambiguous => ?_,
    fun constraints label reference behind unlinked => ?_,
    fun constraints reordered label reference behind same unlinked unambiguous => ?_⟩
  · refine (defineColumn_congr ?_ (Column.close_declare_congr _ ?_ ?_)).symm
    · have front := inlineReference?_append unlinked []
      have back := inlineReference?_append (unlinked.perm same) []
      rw [List.append_nil] at front back
      rw [front, back]
    · rwa [effective_unlinked unlinked, effective_unlinked (unlinked.perm same)]
    · rwa [effective_unlinked unlinked]
  · refine defineColumn_congr ?_ ?_
    · rw [inlineReference?_append unlinked, inlineReference?_append unlinked]
      rfl
    · rw [Column.declare, Column.declare, effective_cut unlinked, effective_cut unlinked]
  · refine (defineColumn_congr ?_ (Column.close_declare_congr _ ?_ ?_)).symm
    · rw [inlineReference?_append unlinked, inlineReference?_append (unlinked.perm same)]
      rfl
    · rwa [effective_cut unlinked, effective_cut (unlinked.perm same)]
    · rwa [effective_cut unlinked]

/-- A key that is also said to take nulls, in front of a reference and a remark that comes too late. -/
theorem constraints_unordered_key :
    let key : ColumnConstraint := ⟨none, .primaryKey none⟩
    let open_ : ColumnConstraint := ⟨none, .nullability true⟩
    let collated : ColumnConstraint := ⟨none, .collate "binary"⟩
    let link : ColumnConstraint := ⟨some "k", .reference ⟨"u", ["a"], ["ON DELETE CASCADE"]⟩⟩
    let late : ColumnConstraint := ⟨none, .comment "late"⟩
    let define := fun constraints => defineColumn "t" .mysql "col_1" ("a", none, constraints)
    [key, open_, collated].Perm [open_, collated, key] ∧ Unlinked [key, open_, collated] ∧
    Unambiguous [key, open_, collated] ∧
    define [open_, collated, key] = define [key, open_, collated] ∧
    define ([key, open_, collated] ++ link :: [late]) = define ([key, open_, collated] ++ [link]) ∧
    define ([open_, collated, key] ++ link :: [late]) = define ([key, open_, collated] ++ [link]) := by
  intro key open_ collated link late define
  have same : [key, open_, collated].Perm [open_, collated, key] :=
    @List.perm_append_comm _ [key] [open_, collated]
  have unlinked : Unlinked [key, open_, collated] := by
    intro constraint member
    simp only [List.mem_cons, List.not_mem_nil, or_false] at member
    rcases member with rfl | rfl | rfl <;> rfl
  have unambiguous : Unambiguous [key, open_, collated] :=
    ⟨Nat.le_refl 1, Nat.zero_le 1, Nat.le_refl 1, Nat.zero_le 1⟩
  obtain ⟨free, cut, before⟩ := constraints_unordered "t" .mysql "col_1" "a" none
  exact ⟨same, unlinked, unambiguous, free _ _ same unlinked unambiguous, cut _ _ _ [late] unlinked,
    before _ _ _ _ [late] same unlinked unambiguous⟩

end DdlSchema.Schema
