import DdlSchema.Ddl.Check

/-! A dialect accepts a definition if and only if nothing in it belongs to another dialect. -/

set_option autoImplicit false

namespace DdlSchema.Ddl

/-- All constraints of a definition, wherever they stand. -/
def CreateTable.constraints (definition : CreateTable) : List Constraint :=
  definition.entries.flatMap fun element =>
    element.ownConstraints ++ element.namedConstraints ++ element.columnConstraints

/-- The name of an element that is a column, and whether a type follows it. -/
def Element.columnHead? : Element → Option (Name × Bool)
  | .column definition => some (definition.name, definition.type.isSome)
  | .bareColumn name => some (name, false)
  | .constraint _ | .namedConstraint _ _ | .expression _ => none

structure CreateTable.Admitted (definition : CreateTable) (dialect : Dialect) : Prop where
  constraints : dialect ≠ .mysql → ∀ constraint ∈ definition.constraints, constraint.mysqlOnly? = none
  properties : dialect ≠ .mysql → ∀ property ∈ definition.properties, property = .temporary
  identities : dialect ≠ .postgresql →
    ∀ constraint ∈ definition.constraints, constraint.isIdentity = false
  names : dialect ≠ .mysql → ∀ element ∈ definition.entries, ∀ head ∈ element.columnHead?,
    head.1.quoted = true ∨ isIndexWord head.1.text = false
  types : dialect ≠ .sqlite → ∀ element ∈ definition.entries, ∀ head ∈ element.columnHead?,
    head.2 = true

theorem forM_eq_ok_iff {α ε : Type} {check : α → Except ε Unit} {entries : List α} :
    entries.forM check = .ok () ↔ ∀ entry ∈ entries, check entry = .ok () := by
  induction entries with
  | nil => simp [pure, Except.pure]
  | cons entry rest ih =>
    rw [List.forall_mem_cons, ← ih]
    cases outcome : check entry <;> simp [outcome, bind, Except.bind]

/-! One construct after the other. -/

theorem checkProperty_eq_ok_iff {property : Property} :
    checkProperty property = .ok () ↔ property = .temporary := by
  cases property <;> simp [checkProperty]

theorem checkColumn_eq_ok_iff {dialect : Dialect} {name : Name} {isTyped : Bool} :
    checkColumn dialect name isTyped = .ok () ↔
      (dialect ≠ .mysql → name.quoted = true ∨ isIndexWord name.text = false) ∧
        (dialect ≠ .sqlite → isTyped = true) := by
  -- the word and the type are told apart by the dialects, of which there are three
  unfold checkColumn
  cases dialect <;> cases name.quoted <;> cases isIndexWord name.text <;> cases isTyped <;> simp

theorem checkElement_eq_ok_iff {dialect : Dialect} {element : Element} :
    checkElement dialect element = .ok () ↔
      ∀ head ∈ element.columnHead?, checkColumn dialect head.1 head.2 = .ok () := by
  cases element <;> simp [checkElement, Element.columnHead?]

theorem mysqlOnly_eq_nil_iff {definition : CreateTable} :
    definition.mysqlOnly = [] ↔
      (∀ constraint ∈ definition.constraints, constraint.mysqlOnly? = none) ∧
        ∀ property ∈ definition.properties, property.mysqlOnly? = none := by
  simp only [CreateTable.mysqlOnly, CreateTable.constraints, List.append_eq_nil_iff,
    List.filterMap_eq_nil_iff, List.mem_flatMap, List.mem_append]
  grind

theorem hasIdentity_eq_false_iff {definition : CreateTable} :
    definition.hasIdentity = false ↔
      ∀ constraint ∈ definition.constraints, constraint.isIdentity = false := by
  simp only [CreateTable.hasIdentity, CreateTable.constraints, List.any_eq_false, List.mem_flatMap,
    Bool.not_eq_true]
  grind

/-! The checks one behind the other. -/

theorem andThen_eq_ok_iff {ε : Type} {first : Except ε Unit} {next : Unit → Except ε Unit} :
    (first >>= next) = .ok () ↔ first = .ok () ∧ next () = .ok () := by
  cases first <;> simp [bind, Except.bind]

theorem checkTable_eq_ok_iff {dialect : Dialect} {definition : CreateTable} :
    checkTable dialect definition = .ok () ↔
      (dialect ≠ .mysql →
        definition.mysqlOnly = [] ∧ definition.properties.forM checkProperty = .ok ()) ∧
      (dialect ≠ .postgresql → definition.hasIdentity = false) ∧
      definition.entries.forM (checkElement dialect) = .ok () := by
  unfold checkTable
  cases dialect <;> cases definition.mysqlOnly <;> cases definition.hasIdentity <;>
    simp [andThen_eq_ok_iff, throw, throwThe, MonadExceptOf.throw]

theorem admitted_iff {dialect : Dialect} {definition : CreateTable} :
    definition.Admitted dialect ↔ checkTable dialect definition = .ok () := by
  simp only [checkTable_eq_ok_iff, mysqlOnly_eq_nil_iff, hasIdentity_eq_false_iff, forM_eq_ok_iff,
    checkProperty_eq_ok_iff, checkElement_eq_ok_iff, checkColumn_eq_ok_iff]
  constructor
  · -- the option that is left in a definition is not one of MySQL
    intro admitted
    refine ⟨fun other => ⟨⟨admitted.constraints other, fun property member => ?_⟩, admitted.properties other⟩,
      admitted.identities, fun element member head here =>
        ⟨fun other => admitted.names other element member head here,
          fun other => admitted.types other element member head here⟩⟩
    rw [admitted.properties other property member]
    rfl
  · rintro ⟨vendor, identities, elements⟩
    exact
      { constraints := fun other => (vendor other).1.1
        properties := fun other => (vendor other).2
        identities := identities
        names := fun other element member head here => (elements element member head here).1 other
        types := fun other element member head here => (elements element member head here).2 other }

/-- What is accepted is a definition of a table, and it is handed on as it is. -/
theorem checkStatement_eq_ok_iff {dialect : Dialect} {statement : Statement} {definition : CreateTable} :
    checkStatement dialect statement = .ok definition ↔
      statement = .createTable definition ∧ definition.Admitted dialect := by
  cases statement with
  | other printed => simp [checkStatement]
  | createTable own =>
    rw [Statement.createTable.injEq, admitted_iff, checkStatement]
    cases outcome : checkTable dialect own with
    | ok =>
      simp only [bind, Except.bind, pure, Except.pure, Except.ok.injEq]
      exact ⟨fun same => ⟨same, same ▸ outcome⟩, And.left⟩
    | error problem =>
      simp only [bind, Except.bind, reduceCtorEq, false_iff, not_and]
      rintro rfl
      simp [outcome]

end DdlSchema.Ddl
