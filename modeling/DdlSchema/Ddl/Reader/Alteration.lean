import DdlSchema.Ddl.Reader.Definition

/-! Reading statements that change or remove what was defined. They are never kept. -/

set_option autoImplicit false

namespace DdlSchema.Ddl.Reader

open DdlSchema.Text

def optionPhrase (words : List String) : Reader String := do
  return if ← allSpelled words then " " ++ String.intercalate " " words else ""

def optionWord (word : String) : Reader String := optionPhrase [word]

def takeRest : Reader (List Token) := do
  let rest := (← get).rest
  modify fun input => { previous := input.rest.getLast? <|> input.previous, rest := [] }
  return rest

def removed (kind : String) (maySeveral : Bool) : Reader String := do
  if kind == "COLUMN" then return (← withGrammar Inner.column).elim "" printed
  else
    let named := return some (← tableName).text
    if maySeveral then return commaJoined (← commaList named) else return (← named).getD ""

def removalOf (lead kind : String) (maySeveral : Bool) : Reader String := do
  let hurried ← optionWord "CONCURRENTLY"
  let absent ← whereThere
  let names ← removed kind maySeveral
  let table ← if ← keyword "ON" then pure (" " ++ (← onProperty)) else pure ""
  let types ← if ← openList then wrapped (commaList (anyType {})) else pure []
  let list := if types.isEmpty then ""
    else " " ++ inParens (commaJoined (types.map (DataType.print none)))
  let extent := (← oneSpelled ["CASCADE", "RESTRICT"]).elim "" (" " ++ ·)
  return lead ++ " " ++ kind ++ hurried ++ absent ++ " " ++ names ++ table ++ list ++ extent ++
    (← optionWord "CONSTRAINTS") ++ (← optionWord "PURGE") ++ (← optionWord "SYNC")

/-- What stands behind DROP; `none` where the kind of thing is not known. -/
def removal (maySeveral : Bool) : Reader (Option String) := do
  let isTemporary := (← oneKeyword ["TEMP", "TEMPORARY"]).isSome
  let lead := "DROP" ++ (if isTemporary then " TEMPORARY" else "") ++ (← optionWord "MATERIALIZED") ++
    (← optionWord "ICEBERG")
  match ← oneKeyword (definableWords (← dialect)) with
  | none => return none
  | some kind => some <$> removalOf lead kind maySeveral

def truncation : Reader Outcome := do
  let kind := if ← keyword "DATABASE" then "DATABASE" else "TABLE"
  let _ ← keyword "TABLE"
  let absent ← whereThere
  let tables ← commaList (return some (← listedTable).text)
  let place ← if ← keyword "ON" then pure (" " ++ (← onProperty)) else pure ""
  let identity ← onePhrase ["RESTART IDENTITY", "CONTINUE IDENTITY"]
  let extent := (← take? fun token => isSpelled "CASCADE" token || isSpelled "RESTRICT" token).elim ""
    fun token => " " ++ token.text
  return if ← isAtEnd then
    .other ("TRUNCATE " ++ kind ++ absent ++ " " ++ commaJoined tables ++ place ++
      identity.elim "" (" " ++ ·) ++ extent)
  else .verbatim

def addedConstraintWords (dialect : Dialect) : List String :=
  ["CONSTRAINT", "FOREIGN KEY", "INDEX", "KEY", "PRIMARY KEY", "UNIQUE"] ++
    (if dialect = .mysql then ["FULLTEXT", "SPATIAL"] else [])

def atAddedConstraint : Reader Bool := do
  let words := addedConstraintWords (← dialect)
  peekIs fun token => token.isAnyWord words

def addition : Reader (Option String) := do
  let isWorded ← spelled "ADD"
  let isBehindAdd := isWorded || (← previous).any fun token => token.upper == "ADD"
  if ← atAddedConstraint then
    let constraints ← commaList (listConstraint elements)
    return some ("ADD " ++ commaJoined (constraints.map Written.text))
  else if !isBehindAdd then return none
  else attempt do
    let _ ← keyword "COLUMN"
    let absent ← whereAbsent
    match ← columnOrValue elements with
    | some ⟨.column _, text⟩ => return some ("ADD COLUMN" ++ absent ++ " " ++ text)
    | _ => return none

def addedColumns : Reader (List String) := do
  if ← isElementList then
    let columns ← elements
    return ["ADD COLUMNS " ++ inParens (commaJoined (columns.map Written.text))]
  else
    let column := do
      let absent ← whereAbsent
      return (← columnOrValue elements).map fun column =>
        "ADD COLUMN" ++ absent ++ " " ++ column.text
    commaList column

def additions : Reader (List String) := do
  let isConstraint ← atAddedConstraint
  let isList ← if isConstraint then pure false else spelled "COLUMNS"
  if isList then addedColumns else commaList addition

def alteredIndex : Reader String := do
  let index := (← anyField .free).elim "" printed
  return "ALTER INDEX " ++ index ++ ((← oneSpelled ["VISIBLE", "INVISIBLE"]).elim "" (" " ++ ·))

def columnChange : Reader String := do
  if ← keywords ["DROP", "DEFAULT"] then return "DROP DEFAULT"
  else if ← keywords ["SET", "DEFAULT"] then return "SET DEFAULT " ++ (← expression).elim "" printed
  else if ← keyword "COMMENT" then
    return "COMMENT " ++ (← stringText).elim "" (printString none)
  else match ← onePhrase ["DROP NOT NULL", "SET NOT NULL", "SET VISIBLE", "SET INVISIBLE"] with
    | some phrase => return phrase
    | none =>
      let _ ← allSpelled ["SET", "DATA"]
      let _ ← spelled "TYPE"
      match ← anyType {} with
      | none => return "DROP DEFAULT"
      | some type =>
        let collation ← if ← keyword "COLLATE" then withGrammar Inner.term else pure none
        let source ← if ← keyword "USING" then expression else pure none
        return "SET DATA TYPE " ++ type.print none ++ collation.elim "" (" COLLATE " ++ printed ·) ++
          source.elim "" (" USING " ++ printed ·)

def alteredColumn : Reader String := do
  let isIndex := (← dialect) == .mysql && (← peekIs (isSpelled "INDEX"))
  if isIndex then
    advance
    alteredIndex
  else
    let _ ← keyword "COLUMN"
    let column := (← anyField .free).elim "" printed
    return "ALTER COLUMN " ++ column ++ " " ++ (← columnChange)

/-- A column that gets another definition, which MySQL lets have another name as well. -/
def redefinedColumn (word : String) : Reader (Option String) := do
  let _ ← keyword "COLUMN"
  let old ← if word == "CHANGE" then anyField .free else pure none
  return (← columnOrValue elements).map fun column =>
    word ++ " COLUMN " ++ old.elim "" (printed · ++ " ") ++ column.text

def newName : Reader (Option String) := do
  let isWorded ← keyword "COLUMN"
  if isWorded || (← dialect) == .sqlite then
    let absent ← whereThere
    let before ← withGrammar Inner.column
    let isNamed ← spelled "TO"
    let after ← withGrammar Inner.column
    return match before, isNamed, after with
    | some before, true, some after =>
      some ("RENAME COLUMN" ++ absent ++ " " ++ printed before ++ " TO " ++ printed after)
    | _, _, _ => none
  else
    let _ ← spelled "TO"
    return some ("RENAME TO " ++ (← listedTable).text)

def newSettings : Reader String := do
  if ← either (allSpelled ["TABLE", "PROPERTIES"]) openList then
    return "SET" ++ spaced (commaPrinted (← wrapped (commaList expression)))
  else if (← oneSpelled ["LOGGED", "UNLOGGED"]).isSome then return "SET"
  else if ← spelled "WITHOUT" then
    let _ ← oneSpelled ["CLUSTER", "OIDS"]
    return "SET"
  else if (← onePhrase ["LOCATION", "ACCESS METHOD", "TABLESPACE"]).isSome then
    let _ ← anyField .strict
    return "SET"
  else if (← oneSpelled ["TAG", "TAGS"]).isSome then
    return "SET TAG " ++ commaPrinted (← commaList expression)
  else
    let isOpen ← mark "("
    let options ← properties
    if isOpen then close
    return "SET" ++ shownTail options

/-- A part of a table that goes, behind DROP. MySQL leaves out the kind of a column. `source` gives
tokens as they are written. -/
def removedPart (source : List Token → String) : Reader (Option String) := do
  let start ← get
  if ← keyword "DROP" then
    match ← removal false with
    | some text => return some text
    | none =>
      if (← dialect) != .mysql then
        set start
        return some (source (← takeRest))
      else if ← keyword "PRIMARY KEY" then return some "DROP PRIMARY KEY"
      else if ← keyword "KEY" then some <$> removalOf "DROP" "INDEX" false
      else some <$> removalOf "DROP" "COLUMN" false
  else return none

/-- Parts of a table that go; the word DROP is read already, and `start` is where it stands. -/
def removedParts (source : List Token → String) (start : Input) : Reader (List String) := do
  let absent ← whereThere
  if ← atKeyword "PARTITION" then
    return ["DROP" ++ absent ++ " " ++ commaPrinted (← commaList (withGrammar partList))]
  else
    set start
    commaList (removedPart source)

def sessionChange : Reader (List String) := do
  if ← keyword "SET" then
    let item := do
      match ← withGrammar Inner.column with
      | none => return none
      | some name =>
        let _ ← mark "="
        return (← expression).map fun value => printed name ++ " = " ++ printed value
    return ["SET " ++ commaJoined (← commaList item)]
  else
    let _ ← spelled "UNSET"
    return ["UNSET " ++ printNames (← commaList anyName)]

/-- What happens to a table, behind the word that says so. `start` is where the word stands. -/
def changes (source : List Token → String) (start : Input) (word : String) : Reader (List String) := do
  let one := fun (body : Reader String) => return [← body]
  let given := fun (body : Reader (Option String)) => return (← body).toList
  match word, ← dialect with
  | "ADD", _ => additions
  | "ALTER", _ => one alteredColumn
  | "AS", _ => given (return (← anyQuery).map fun query => "AS " ++ printed query)
  | "DROP", _ => removedParts source start
  | "RENAME", _ => given newName
  | "SET", _ => one newSettings
  | "SWAP", _ =>
    let isWorded ← keyword "WITH"
    if isWorded then one (return "SWAP WITH " ++ (← listedTable).text) else return []
  | "CHANGE", .mysql | "MODIFY", .mysql => given (redefinedColumn word)
  | _, .mysql =>
    set start
    return (← wordedProperty propertyList false).join.elim [] fun options => options.map Property.print
  | _, _ => return []

/-- What follows a change: options of the table, and whether rows that are there are looked at. -/
def changeTail : Reader String := do
  let unchecked ← optionPhrase ["NOT", "VALID"]
  let options ← commaList (propertyWith propertyList)
  let shown := options.flatten.map Property.print
  return unchecked ++ (if shown.isEmpty then "" else ", " ++ commaJoined shown)

def alterationOf (source : List Token → String) (kind : String) : Reader Outcome := do
  let absent ← whereThere
  let only ← optionWord "ONLY"
  let isSession := kind == "SESSION"
  let table ← if isSession then pure "" else pure (" " ++ (← listedTable).text)
  let checked ← if isSession then pure "" else optionPhrase ["WITH", "CHECK"]
  let isPlaced ← if isSession then pure false else keyword "ON"
  let place ← if isPlaced then pure (" " ++ (← onProperty)) else pure ""
  let start ← get
  if !isSession && (← remaining) > 1 then advance
  let word := ((← previous).map Token.upper).getD ""
  let changes ← if isSession then sessionChange else changes source start word
  let tail ← changeTail
  return if changes.isEmpty || !(← isAtEnd) then .verbatim
    else .other ("ALTER " ++ kind ++ absent ++ only ++ table ++ place ++ checked ++ " " ++
      commaJoined changes ++ tail)

def alteration (source : List Token → String) : Reader Outcome := do
  match ← oneKeyword ["INDEX", "SESSION", "TABLE", "VIEW"] with
  | none => return .verbatim
  | some kind => alterationOf source kind

end DdlSchema.Ddl.Reader
