import DdlSchema.Ddl.Printer
import DdlSchema.Ddl.Problem

/-! What a reader accepts although the dialect does not have it: statements other than CREATE
TABLE, constructs of MySQL, identities, index definitions that read as columns, columns without a
type. -/

set_option autoImplicit false

namespace DdlSchema.Ddl

open DdlSchema.Text

def KeyPart.print (dialect : Option Dialect) (part : KeyPart) : String :=
  part.target.print dialect ++ part.length.elim "" inParens ++
    part.collation.elim "" (" COLLATE " ++ ·) ++
    (match part.descending with
    | some true => " DESC"
    | some false => " ASC"
    | none => "")

def IndexWord.print : IndexWord → String
  | .plain => "INDEX"
  | .fulltext => "FULLTEXT INDEX"
  | .spatial => "SPATIAL INDEX"

def IndexDefinition.print (dialect : Option Dialect) (definition : IndexDefinition) : String :=
  definition.kind.print ++
    definition.name.elim "" (fun name => " " ++ printName dialect name) ++
    definition.method.elim "" (" USING " ++ ·) ++
    " " ++ inParens (commaJoined (definition.parts.map (KeyPart.print dialect))) ++
    String.join (definition.options.map (" " ++ ·))

/-- A constraint that only MySQL has, as it is written there. -/
def Constraint.mysqlOnly? : Constraint → Option String
  | .index definition => some (definition.print (some .mysql))
  | .comment text => some ("COMMENT " ++ printString (some .mysql) text)
  | .onUpdate value => some ("ON UPDATE " ++ value.print (some .mysql))
  | _ => none

/-- A table option that only MySQL has, as it is written there. -/
def Property.mysqlOnly? : Property → Option String
  | .engine value => some ("ENGINE=" ++ value.print (some .mysql))
  | .collate value => some ("COLLATE=" ++ value.print (some .mysql))
  | .comment value => some ("COMMENT=" ++ value.print (some .mysql))
  | .temporary | .other _ _ => none

def Element.ownConstraints : Element → List Constraint
  | .constraint kind => [kind]
  | _ => []

def Element.namedConstraints : Element → List Constraint
  | .namedConstraint _ kinds => kinds
  | _ => []

def Element.columnConstraints : Element → List Constraint
  | .column definition => definition.constraints.map ColumnConstraint.kind
  | _ => []

/-- What only MySQL has, the outermost first. -/
def CreateTable.mysqlOnly (definition : CreateTable) : List String :=
  let entries := definition.entries
  (entries.flatMap Element.ownConstraints).filterMap Constraint.mysqlOnly? ++
    definition.properties.filterMap Property.mysqlOnly? ++
    (entries.flatMap Element.namedConstraints).filterMap Constraint.mysqlOnly? ++
    (entries.flatMap Element.columnConstraints).filterMap Constraint.mysqlOnly?

def Constraint.isIdentity : Constraint → Bool
  | .identity _ => true
  | _ => false

def CreateTable.hasIdentity (definition : CreateTable) : Bool :=
  definition.entries.any fun element =>
    (element.ownConstraints ++ element.namedConstraints ++ element.columnConstraints).any
      Constraint.isIdentity

def isIndexWord (name : String) : Bool :=
  ["KEY", "INDEX", "FULLTEXT", "SPATIAL"].contains (upperString name)

def checkColumn (dialect : Dialect) (name : Name) (isTyped : Bool) : Except Problem Unit :=
  if !name.quoted && isIndexWord name.text && dialect != .mysql then .error (.indexWord name.text)
  else if !isTyped && dialect != .sqlite then .error (.untypedColumn name.text)
  else .ok ()

def checkElement (dialect : Dialect) : Element → Except Problem Unit
  | .column definition => checkColumn dialect definition.name definition.type.isSome
  | .bareColumn name => checkColumn dialect name false
  | .constraint _ | .namedConstraint _ _ | .expression _ => .ok ()

def checkProperty : Property → Except Problem Unit
  | .temporary => .ok ()
  | .other _ printed => .error (.unsupportedOption printed)
  | .engine value | .collate value | .comment value =>
    .error (.unsupportedOption (value.print none))

def checkTable (dialect : Dialect) (definition : CreateTable) : Except Problem Unit := do
  if dialect != .mysql then
    match definition.mysqlOnly with
    | printed :: _ => throw (.unsupported printed)
    | [] => definition.properties.forM checkProperty
  if dialect != .postgresql && definition.hasIdentity then
    throw (.unsupported "GENERATED AS IDENTITY")
  definition.entries.forM (checkElement dialect)

def preview (statement : String) : String :=
  String.ofList ((squeeze statement.toList).take 60)

/-- The definition, if the dialect has all that it holds. -/
def checkStatement (dialect : Dialect) : Statement → Except Problem CreateTable
  | .other printed => .error (.unsupported (preview printed))
  | .createTable definition => do
    checkTable dialect definition
    return definition

end DdlSchema.Ddl
