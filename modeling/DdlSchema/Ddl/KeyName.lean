import DdlSchema.Ddl.Tree

/-! The column that a part of a key names. -/

set_option autoImplicit false

namespace DdlSchema.Ddl

def mergeLevels : List (List Name) → List (List Name) → List (List Name)
  | [], right => right
  | left, [] => left
  | first :: left, second :: right => (first ++ second) :: mergeLevels left right

mutual

def Expr.nameLevels : Expr → List (List Name)
  | .name own => [[own]]
  | .column qualifiers own => [[], own :: qualifiers.reverse]
  | .call _ arguments | .known _ arguments | .moment _ arguments | .array arguments
  | .tuple arguments | .phrase arguments | .query arguments => [] :: nameLevelsOfAll arguments
  | .cast operand _ | .unary _ operand | .paren operand | .parameter operand
  | .sorted operand _ _ => [] :: operand.nameLevels
  | .subscript operand members => [] :: mergeLevels operand.nameLevels (nameLevelsOfAll members)
  | .binary _ left right => [] :: mergeLevels left.nameLevels right.nameLevels
  | .interval amount _ => [] :: nameLevelsOfOption amount
  | .remark operand _ => operand.nameLevels
  | .number _ | .text _ | .coded _ _ | .null | .truth _ | .star | .word _ => []

def nameLevelsOfAll : List Expr → List (List Name)
  | [] => []
  | value :: rest => mergeLevels value.nameLevels (nameLevelsOfAll rest)

def nameLevelsOfOption : Option Expr → List (List Name)
  | none => []
  | some value => value.nameLevels

end

/-- The name of the expression itself, if it has one. -/
def Expr.ownName : Expr → String
  | .column _ own => own.text
  | .coded _ value => value
  | .call function _ => function.text
  | .known _ arguments | .moment _ arguments => (arguments.head?.map Expr.leafText).getD ""
  | .cast operand _ | .unary _ operand | .paren operand | .binary _ operand _
  | .subscript operand _ | .parameter operand => operand.leafText
  | .interval amount _ => (amount.map Expr.leafText).getD ""
  | .phrase (first :: _) => match first with
    | .word _ => ""
    | first => first.leafText
  | .sorted operand _ _ | .remark operand _ => operand.ownName
  | value => value.leafText

/-- The name of the expression or else the first one inside it, the outermost first. -/
def Expr.keyName (value : Expr) : String :=
  let own := value.ownName
  if own.isEmpty then (value.nameLevels.flatten.head?.map Name.text).getD "" else own

def Element.keyName : Element → String
  | .column definition => definition.name.text
  | .bareColumn name => name.text
  | .expression value => value.keyName
  | .namedConstraint name _ => name.getD ""
  | .constraint _ => ""

end DdlSchema.Ddl
