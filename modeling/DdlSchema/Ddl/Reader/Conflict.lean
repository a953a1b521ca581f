import DdlSchema.Ddl.Reader.Index

/-! Reading what is done with rows that are there already. -/

set_option autoImplicit false

namespace DdlSchema.Ddl.Reader

open DdlSchema.Text

def whereClause : Reader String := do
  if ← keyword "WHERE" then return " WHERE " ++ printed (← required expression) else return ""

def conflictActions : Options :=
  [("ABORT", []), ("DO", ["NOTHING", "UPDATE"]), ("FAIL", []), ("IGNORE", []), ("REPLACE", []),
    ("ROLLBACK", []), ("UPDATE", [])]

def assignments : Reader String := do
  return commaPrinted (← commaList (withGrammar Inner.equality))

/-- What makes rows the same: a constraint, or columns. -/
def conflictTarget : Reader String := do
  if ← keywords ["ON", "CONSTRAINT"] then
    return " ON CONSTRAINT " ++ (← anyName).elim "" (printName none)
  else if ← openList then
    return inParens (commaPrinted (← wrapped (withGrammar fun inner => commaList (indexedColumn inner))))
  else return ""

def conflictClause : Reader String := do
  let isConflict ← keywords ["ON", "CONFLICT"]
  let isDouble ← if isConflict then pure false else allSpelled ["ON", "DUPLICATE", "KEY"]
  if !isConflict && !isDouble then return ""
  else
    let target ← if isConflict then conflictTarget else pure ""
    let condition ← whereClause
    let action := (← requiredOption conflictActions).getD ""
    let isUpdate := (← previous).any fun token => token.isWord "UPDATE"
    let values ←
      if isUpdate then
        let _ ← keyword "SET"
        pure (" SET " ++ (← assignments))
      else pure ""
    let last ← whereClause
    return (if isDouble then " ON DUPLICATE KEY" else " ON CONFLICT") ++ target ++ condition ++ " " ++
      action ++ values ++ last

end DdlSchema.Ddl.Reader
