import DdlSchema.Ddl.Reader.Naming

/-! Reading what turns the rows of a table into columns, or its columns into rows. -/

set_option autoImplicit false

namespace DdlSchema.Ddl.Reader

open DdlSchema.Text

/-- The values whose rows become columns, or the columns that become rows: a list, or the name of
one. -/
def pivotValues (inner : Inner) : Reader (Option (List Expr)) := do
  if ← mark "(" then
    let values ←
      if ← keyword "ANY" then
        let order ← clause "ORDER BY" (sortKeys inner)
        pure [.phrase (.word "ANY" :: (if order.isEmpty then [] else .word " " :: order))]
      else commaList (orElse inner.query (aliased false inner.disjunction))
    close
    return some [.word "(", .phrase (separated ", " values), .word ")"]
  else return (← softName).map fun name => [.name name]

def pivotField (inner : Inner) : Reader (Option Expr) := attemptAll do
  match ← inner.column with
  | none => return none
  | some column =>
    unless ← keyword "IN" do fail "Expecting IN"
    return (← pivotValues inner).map fun values => .phrase (column :: .word " IN " :: values)

def pivotBody (inner : Inner) (isTurnedBack : Bool) : Reader (List Expr) := do
  let parts ← commaList (if isTurnedBack then inner.column else aliased false inner.call)
  if parts.isEmpty then fail "Failed to parse PIVOT's aggregation list"
  unless ← keyword "FOR" do fail "Expecting FOR"
  let fields ← sequence (pivotField inner)
  close
  return [.word "(", .phrase (separated ", " parts), .word " FOR ", .phrase (separated " " fields),
    .word ")"]

def pivot (inner : Inner) : Reader (Option Expr) := attempt do
  match ← oneKeyword ["PIVOT", "UNPIVOT"] with
  | none => return none
  | some word =>
    let isTurnedBack := word == "UNPIVOT"
    let nulls ← if isTurnedBack then onePhrase ["INCLUDE NULLS", "EXCLUDE NULLS"] else pure none
    if ← mark "(" then
      let body ← pivotBody inner isTurnedBack
      let isFollowed ← peekIs fun token => token.isAnyWord ["PIVOT", "UNPIVOT"]
      let name ← if isFollowed then pure [] else tableAlias inner []
      return some (.phrase (.word (" " ++ word ++ nulls.elim "" (" " ++ · ++ " ")) :: body ++ name))
    else return none

end DdlSchema.Ddl.Reader
