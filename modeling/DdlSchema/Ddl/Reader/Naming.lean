import DdlSchema.Ddl.Reader.Operator

/-! Reading the names that tables and rows of a query get, with the names of their columns. -/

set_option autoImplicit false

namespace DdlSchema.Ddl.Reader

open DdlSchema.Text

def tableTailWords (dialect : Dialect) : List String :=
  ["ANTI", "APPLY", "ASOF", "FULL", "LEFT", "LOCK", "NATURAL", "RIGHT", "SEMI", "WINDOW"] ++
    (if dialect = .mysql then ["FORCE", "IGNORE", "USE"] else [])

def shownNamesOf (names : List Name) : Expr := .phrase (separated ", " (names.map Expr.name))

def stringName : Reader (Option Name) := return (← stringText).map fun text => ⟨text, true⟩

def aliasColumns (inner : Inner) : Reader (List Expr) := do
  let start ← get
  if ← mark "(" then
    let columns ← commaList do
      match ← anyName with
      | none => return none
      | some name =>
        let type ← inner.dataType { declared := true }
        return some (.phrase (.name name :: (type.toList.map fun type =>
          Expr.word (" " ++ type.print none))))
    if columns.isEmpty then
      set start
      return []
    else
      close
      return [.word "(", .phrase (separated ", " columns), .word ")"]
  else return []

def rowsName (inner : Inner) (words : List String) : Reader (List Expr) := do
  if ← atLimit then return []
  let isWorded ← keyword "AS"
  let isTail ← peekIs fun token => token.isAnyWord words
  let name ← orElse (if isWorded then anyName else if isTail then pure none else softName) stringName
  let columns ← if isWorded || name.isSome then aliasColumns inner else pure []
  if name.isNone && columns.isEmpty then return []
  else return name.toList.map Expr.name ++ columns

/-- The name that a table gets, with the names of its columns. The words of `kept` are none. -/
def tableAlias (inner : Inner) (kept : List String) : Reader (List Expr) := do
  let name ← rowsName inner (tableTailWords (← dialect) ++ kept)
  return if name.isEmpty then [] else .word " AS " :: name

end DdlSchema.Ddl.Reader
