import DdlSchema.Ddl.Reader.Definition

/-! Reading statements that change the rows of tables. They are never kept. -/

set_option autoImplicit false

namespace DdlSchema.Ddl.Reader

open DdlSchema.Text

def printedParts (parts : List Expr) : String := String.join (parts.map printed)

def hintText : Reader String := do
  return (← withGrammar hint).elim "" fun hint => " /*+ " ++ hint ++ " */"

def returned : Reader String := do
  if ← keyword "RETURNING" then
    let values ← commaList namedExpression
    let target ← if ← keyword "INTO" then anyName else pure none
    return " RETURNING " ++ commaPrinted values ++ target.elim "" (" INTO " ++ printName none ·)
  else return ""

def orderClause : Reader String := do
  if ← keyword "ORDER BY" then return " ORDER BY " ++ printed (← withGrammar sortKeys) else return ""

/-- How many rows are changed; how many are passed over before stands in front of it. -/
def limitation : Reader String := do
  let limit ← if ← keyword "LIMIT" then withGrammar limitClause
    else if ← keyword "FETCH" then withGrammar fetchClause else pure []
  match limit.lookup .offset, limit.lookup .limit with
  | some passed, some amount =>
    return " LIMIT " ++ printedParts (passed.drop 1) ++ ", " ++ printedParts (amount.drop 1)
  | _, _ => return printedParts limit.parts

/-- A word that only MySQL has. -/
def mysqlKeyword (word : String) : Reader Bool := do
  if (← dialect) == .mysql then keyword word else return false

def targetTable : Reader String := do
  let table ← listedTable
  let name ← if ← atKeyword "AS" then withGrammar fun inner => tableAlias inner [] else pure []
  return table.text ++ printedParts name

def pairedValues : Reader (Option String) := do
  if (← dialect) == .mysql && (← atKeyword "SET") then
    advance
    let pairs ← commaList (withGrammar Inner.equality)
    let parted := pairs.map fun pair => match pair.bare with
      | .binary "=" column value => (printed column, printed value)
      | value => (printed value, "")
    return some (inParens (commaJoined (parted.map Prod.fst)) ++ " VALUES " ++
      inParens (commaJoined (parted.map Prod.snd)))
  else return none

def insertedRows : Reader String := do
  match ← pairedValues with
  | some rows => return rows
  | none =>
    let rows ← orElse (withGrammar fun inner => writtenRows inner false) (withGrammar fillingQuery)
    return rows.elim "" printed

/-- What is done instead where a row cannot go in. -/
def insertAlternative : Reader String := do
  if ← keyword "OR" then
    let token ← take? fun token =>
      ["ABORT", "FAIL", "IGNORE", "REPLACE", "ROLLBACK"].any (isSpelled · token)
    return token.elim "" fun token => " OR " ++ token.text
  else return ""

def targetDirectory : Reader String := do
  let place := if ← spelled "LOCAL" then "LOCAL " else ""
  if ← spelled "DIRECTORY" then
    let path := (← wordOrString).getD ""
    let format ← if ← keywords ["ROW", "FORMAT"] then rowShape else pure ""
    return place ++ "DIRECTORY " ++ path ++ spaced format
  else return ""

def insertion : Reader String := do
  let hint ← hintText
  let isOverwrite ← keyword "OVERWRITE"
  let ignore := if ← mysqlKeyword "IGNORE" then " IGNORE" else ""
  let directory ← targetDirectory
  let alternative ← if directory.isEmpty then insertAlternative else pure ""
  let target ← if directory.isEmpty then do
      let _ ← keyword "INTO"
      let _ ← keyword "TABLE"
      targetTable
    else pure directory
  let lead := if !isOverwrite then " INTO " else if directory.isEmpty then " OVERWRITE TABLE " else " OVERWRITE "
  let early ← returned
  let byName ← if ← allSpelled ["BY", "NAME"] then pure " BY NAME" else pure ""
  let absent ← whereThere
  let isDefault ← allSpelled ["DEFAULT", "VALUES"]
  let rows ← insertedRows
  let conflict ← conflictClause
  let late ← if early.isEmpty then returned else pure early
  let source ← if ← keyword "TABLE" then
    pure ("TABLE " ++ (← withGrammar Inner.table).elim "" printed) else pure ""
  return "INSERT" ++ hint ++ alternative ++ ignore ++ lead ++ target ++ byName ++ absent ++ " " ++
    rows ++ conflict ++ (if isDefault then "DEFAULT VALUES" else "") ++ late ++ source

/-- The parts of a change, which may come in any order; the last of each kind counts. -/
structure Modification where
  values : String := ""
  source : String := ""
  condition : String := ""
  returned : String := ""
  order : String := ""
  limit : String := ""

def modificationFrom : Nat → Modification → Reader Modification
  | 0, change => return change
  | bound + 1, change => do
    if ← keyword "SET" then
      modificationFrom bound { change with values := ← assignments }
    else if ← atKeyword "RETURNING" then
      modificationFrom bound { change with returned := ← returned }
    else if ← keyword "FROM" then
      let table ← required (withGrammar Inner.table)
      modificationFrom bound { change with source := " FROM " ++ printed table }
    else if ← atKeyword "WHERE" then
      modificationFrom bound { change with condition := ← whereClause }
    else if ← atKeyword "ORDER BY" then
      modificationFrom bound { change with order := ← orderClause }
    else if ← atKeyword "LIMIT" then
      modificationFrom bound { change with limit := ← limitation }
    else return change

def modification : Reader String := do
  let hint ← hintText
  let table ← withGrammar fun inner => tableWith inner ["SET"]
  let change ← modificationFrom ((← remaining) + 1) {}
  return "UPDATE" ++ hint ++ " " ++ table.elim "" printed ++ " SET " ++ change.values ++ change.source ++
    change.condition ++ change.returned ++ change.order ++ change.limit

def deletion : Reader String := do
  let hint ← hintText
  let tables ← if ← atKeyword "FROM" then pure [] else
    commaList (withGrammar fun inner => singleTable inner [])
  let early ← returned
  let source ← if ← keyword "FROM" then withGrammar Inner.table else pure none
  let others ← if ← keyword "USING" then commaList (withGrammar Inner.table) else pure []
  let place ← if ← keyword "ON" then pure (" " ++ (← onProperty)) else pure ""
  let condition ← whereClause
  let late ← if early.isEmpty then returned else pure early
  let order ← orderClause
  let limit ← limitation
  return "DELETE" ++ hint ++ spaced (commaPrinted tables) ++
    source.elim "" (fun source => " FROM " ++ printed source) ++
    (if others.isEmpty then "" else " USING " ++ commaPrinted others) ++ place ++ condition ++ late ++
    order ++ limit

def matchedInsertion : Reader String := do
  if ← mark "*" then return "INSERT *"
  else
    let target ← if ← spelled "ROW" then pure " ROW"
      else pure (((← withGrammar valueRow).map printed).elim "" (" " ++ ·))
    if ← spelled "VALUES" then
      return "INSERT" ++ target ++ ((← withGrammar valueRow).elim "" fun row => " VALUES " ++ printed row)
    else return "INSERT" ++ target

def matchedAction : Reader String := do
  if ← keyword "INSERT" then matchedInsertion
  else if ← keyword "UPDATE" then
    if ← mark "*" then return "UPDATE *"
    else
      let values ← if ← keyword "SET" then assignments else pure ""
      return if values.isEmpty then "UPDATE" else "UPDATE SET " ++ values
  else match ← take? fun token => token.isWord "DELETE" with
    | some token => return token.text
    | none => return (← requiredOption conflictActions).getD ""

def mergeCase : Reader (Option String) := do
  if ← keyword "WHEN" then
    let denied := if ← keyword "NOT" then "NOT " else ""
    let _ ← spelled "MATCHED"
    let isTarget ← allSpelled ["BY", "TARGET"]
    let isSource ← if isTarget then pure false else allSpelled ["BY", "SOURCE"]
    let condition ← if ← keyword "AND" then expression else pure none
    let _ ← keyword "THEN"
    return some ("WHEN " ++ denied ++ "MATCHED" ++ (if isSource then " BY SOURCE" else "") ++
      condition.elim "" (" AND " ++ printed ·) ++ " THEN " ++ (← matchedAction))
  else return none

def merger : Reader String := do
  let single := withGrammar fun inner => singleTable inner []
  let _ ← keyword "INTO"
  let target ← required single
  let _ ← keyword "USING"
  let source ← required single
  let condition ← if ← keyword "ON" then
      pure ("ON " ++ (← expression).elim "" printed)
    else if ← keyword "USING" then pure ("USING " ++ inParens (printNames (← nameList)))
    else pure ""
  let cases ← sequence mergeCase
  let returned ← returned
  return "MERGE INTO " ++ printed target ++ " USING " ++ printed source ++ " " ++ condition ++ " " ++
    String.intercalate " " cases ++ returned

end DdlSchema.Ddl.Reader
