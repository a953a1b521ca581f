import DdlSchema.Ddl.Reader.Expression

/-! Reading how the rows of a table are parted, and the table that they are a part of. -/

set_option autoImplicit false

namespace DdlSchema.Ddl.Reader

open DdlSchema.Text

def printed (value : Expr) : String := value.print none

def commaPrinted (values : List Expr) : String := commaJoined (values.map printed)

def referredTable : Reader String := return printed (← required namePath)

def partitionBound : Reader (Option Expr) := do
  match ← oneSpelled ["MINVALUE", "MAXVALUE"] with
  | some word => return some (.word word)
  | none => simpleValue

def partitionValues : Reader String := do
  if ← keyword "IN" then
    return "IN (" ++ commaPrinted (← wrapped (commaList simpleValue)) ++ ")"
  else if ← keyword "FROM" then
    let low ← wrapped (commaList partitionBound)
    let _ ← spelled "TO"
    let high ← wrapped (commaList partitionBound)
    return "FROM (" ++ commaPrinted low ++ ") TO (" ++ commaPrinted high ++ ")"
  else if ← acceptAll [isSpelled "WITH", (·.isMark "("), isSpelled "MODULUS"] then
    let modulus := (← ofKind .number).getD ""
    let _ ← mark ","
    let _ ← spelled "REMAINDER"
    let remainder := (← ofKind .number).getD ""
    close
    return "WITH (MODULUS " ++ modulus ++ ", REMAINDER " ++ remainder ++ ")"
  else fail "Failed to parse partition bound spec."

def partitionOf : Reader (Option String) := do
  if ← spelled "OF" then
    let table ← referredTable
    if ← keyword "DEFAULT" then return some ("PARTITION OF " ++ table ++ " DEFAULT")
    else if ← allSpelled ["FOR", "VALUES"] then
      return some ("PARTITION OF " ++ table ++ " FOR VALUES " ++ (← partitionValues))
    else fail "Expecting either DEFAULT or FOR VALUES clause."
  else return none

def listedValues : Reader Unit := do
  let _ ← wrapped (commaList namedExpression)

/-- One of the partitions that MySQL lists: those of a range may have a name alone. -/
def listedPartition (manner : String) : Reader (Option Expr) := do
  let _ ← keyword "PARTITION"
  let name ← anyName
  if manner == "RANGE" then
    if ← allSpelled ["VALUES", "LESS", "THAN"] then listedValues
  else
    let _ ← allSpelled ["VALUES", "IN"]
    listedValues
  return name.map Expr.name

/-- How MySQL parts the rows. Where the partitions are not listed the values alone are kept. -/
def mysqlPartition : Reader (Option (List String)) := do
  match ← oneSpelled ["RANGE", "LIST"] with
  | none => return none
  | some manner =>
    let values ← wrapped (commaList expression)
    let isListed ← openList
    if isListed && (← secondIs fun next => next.isWord "PARTITION") then
      let _ ← wrapped (commaList (listedPartition manner))
      return some ["PARTITION BY " ++ manner ++ " (" ++ commaPrinted values ++ ")"]
    else return some (values.map printed)

def partitionBy : Reader (Option (List String)) := do
  if (← dialect) == .mysql then mysqlPartition
  else
    let _ ← mark "="
    return some ["PARTITIONED_BY=" ++ printed (← required (anyField .strict))]

end DdlSchema.Ddl.Reader
