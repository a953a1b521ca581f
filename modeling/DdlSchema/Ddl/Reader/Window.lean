import DdlSchema.Ddl.Reader.Literal

/-! Reading sort keys, and what a call may be followed by: an order inside its group, a condition,
a window. -/

set_option autoImplicit false

namespace DdlSchema.Ddl.Reader

/-- Where nulls come if nothing is said about them. -/
def usualNullsFirst (dialect : Dialect) (descending : Bool) : Bool :=
  if dialect == .postgresql then descending else !descending

/-- A sort key whose value is read by `body`. -/
def sortKeyOf (body : Reader (Option Expr)) : Reader (Option Expr) := do
  match ← body with
  | none => return none
  | some key =>
    let isAscending ← keyword "ASC"
    let isDescending ← keyword "DESC"
    let descending := if isDescending then some true else if isAscending then some false else none
    if ← allSpelled ["NULLS", "FIRST"] then return some (.sorted key descending true)
    else if ← allSpelled ["NULLS", "LAST"] then return some (.sorted key descending false)
    else return some (.sorted key descending (usualNullsFirst (← dialect) isDescending))

def sortKeys (inner : Inner) : Reader Expr := do
  return .phrase (separated ", " (← commaList (sortKeyOf inner.disjunction)))

/-- A clause with its words in front; nothing if it is not there. -/
def clause (words : String) (body : Reader Expr) : Reader (List Expr) := do
  if ← keyword words then return [.word words, .word " ", ← body] else return []

def listed (inner : Inner) : Reader Expr := do
  return .phrase (separated ", " (← commaList inner.disjunction))

def frameEnd (inner : Inner) : Reader Expr := do
  let _ ← keyword "BETWEEN"
  let value ←
    if ← spelled "UNBOUNDED" then pure (Expr.word "UNBOUNDED")
    else if ← allSpelled ["CURRENT", "ROW"] then pure (.word "CURRENT ROW")
    else required inner.typed
  match ← oneSpelled ["PRECEDING", "FOLLOWING"] with
  | some side => return .phrase [value, .word (" " ++ side)]
  | none => return value

def excludedRows : Options := [("CURRENT", ["ROW"]), ("GROUP", []), ("NO", ["OTHERS"]), ("TIES", [])]

def windowFrame (inner : Inner) : Reader (List Expr) := do
  match ← oneSpelled ["ROWS", "RANGE", "GROUPS"] with
  | none => return []
  | some kind =>
    let first ← frameEnd inner
    let last ← if ← keyword "AND" then frameEnd inner else pure (.word "CURRENT ROW")
    let excluded ← if ← spelled "EXCLUDE" then requiredOption excludedRows else pure none
    return [.known "FRAME" ([.word kind, first, last] ++ (excluded.map Expr.word).toList)]

def windowBody (inner : Inner) : Reader Expr := do
  let isFrame ← peekIs fun token => token.isAnyWord ["ROWS", "RANGE"]
  let base ← if isFrame then pure none else softName
  let partition ← clause "PARTITION BY" (listed inner)
  let order ← clause "ORDER BY" (sortKeys inner)
  let frame ← windowFrame inner
  let clauses := (base.toList.map Expr.name).map (fun name => [name]) ++ [partition, order, frame]
  return .phrase (separated " " ((clauses.filter fun parts => !parts.isEmpty).map Expr.phrase))

def nullTreatment (value : Expr) : Reader Expr := do
  if ← allSpelled ["IGNORE", "NULLS"] then return .known "IGNORE NULLS" [value]
  else if ← allSpelled ["RESPECT", "NULLS"] then return .known "RESPECT NULLS" [value]
  else return value

def grouped (inner : Inner) (value : Expr) : Reader Expr := do
  if ← allSpelled ["WITHIN", "GROUP"] then
    let order ← wrapped (clause "ORDER BY" (sortKeys inner))
    return .phrase ([value, .word " WITHIN GROUP ("] ++ order ++ [.word ")"])
  else return value

def filtered (inner : Inner) (value : Expr) : Reader Expr := do
  let hasCondition ← acceptAll [(·.isWord "FILTER"), (·.isMark "(")]
  if hasCondition then
    let _ ← keyword "WHERE"
    let condition ← required inner.disjunction
    close
    return .phrase [value, .word " FILTER(WHERE ", condition, .word ")"]
  else return value

def windowed (inner : Inner) (value : Expr) : Reader Expr := do
  let value ← nullTreatment (← filtered inner (← grouped inner value))
  if ← keyword "OVER" then
    if ← openList then
      return .phrase [value, .word " OVER (", ← wrapped (windowBody inner), .word ")"]
    else
      return .phrase ([value, .word " OVER "] ++ (← softName).toList.map Expr.name)
  else return value

end DdlSchema.Ddl.Reader
