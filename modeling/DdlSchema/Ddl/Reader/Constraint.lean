import DdlSchema.Ddl.Reader.Conflict

/-! Reading constraints. Some of them hold a list of elements again; they take its reader as
argument. -/

set_option autoImplicit false

namespace DdlSchema.Ddl.Reader

open DdlSchema.Text

def indexWords : List String := ["FULLTEXT", "INDEX", "KEY", "SPATIAL"]

def tableConstraintWords (dialect : Dialect) : List String :=
  ["CHECK", "EXCLUDE", "FOREIGN KEY", "LIKE", "PERIOD", "PRIMARY KEY", "UNIQUE", "BUCKET",
    "TRUNCATE", "WATERMARK"] ++ (if dialect = .mysql then indexWords else [])

def columnConstraintWords (dialect : Dialect) : List String :=
  ["AUTO_INCREMENT", "AUTOINCREMENT", "IDENTITY", "CHARACTER", "CHAR", "FORMAT", "TITLE", "ENCODE",
    "PATH", "COLLATE", "COMMENT", "COMPRESS", "CLUSTERED", "NONCLUSTERED", "DEFAULT", "EPHEMERAL",
    "GENERATED", "INLINE", "NOT", "NULL", "ON", "REFERENCES", "TTL", "UPPERCASE", "CASESPECIFIC",
    "WITH"] ++
    (if dialect = .mysql then ["CHARSET", "ZEROFILL", "INVISIBLE", "VISIBLE"] else []) ++
    tableConstraintWords dialect

def atConstraint : Reader Bool := do
  let dialect ← dialect
  peekIs fun token => token.kind != .string && (columnConstraintWords dialect).contains token.upper

def without (text : String) : Option (Written Constraint) := some ⟨.other, text⟩

/-- The name behind PRIMARY KEY, a word in front of the list, which only MySQL has. -/
def primaryKeyName : Reader String := do
  let isNamed ← secondIs fun next => next.isMark "("
  let isMysql := (← dialect) == .mysql
  if isMysql && isNamed && !(← openList) && !(← atConstraint) && !(← atKeyword "USING") then
    return spaced ((← anyName).elim "" (printName none))
  else return ""

def primaryKey : Reader (Written Constraint) := do
  let dialect ← dialect
  let direction ← oneKeyword ["ASC", "DESC"]
  let name ← primaryKeyName
  if ← openList then
    let parts ← wrapped (commaList primaryKeyPart)
    let parameters ← if dialect == .mysql then shownOptions <$> indexOptions else indexParameters
    let options ← keyOptions
    return ⟨.primaryKey (some (parts.map Written.value)),
      "PRIMARY KEY" ++ name ++ " " ++ inParens (commaJoined (parts.map Written.text)) ++ parameters ++
        shownOptions options⟩
  else
    let parameters ← if dialect == .postgresql then indexParameters else pure ""
    let options ← keyOptions
    return ⟨.primaryKey none,
      "PRIMARY KEY" ++ direction.elim (parameters ++ shownOptions options) (" " ++ ·)⟩

/-- The name of a unique key; PostgreSQL has none. The first word of another constraint is none. -/
def uniqueName : Reader (Option Name) := do
  if (← dialect) == .postgresql then return none
  else
    let _ ← oneSpelled ["KEY", "INDEX"]
    if ← atConstraint then return none else softName

def uniqueTarget (name : Option Name) (columns : Option (Written (List String))) :
    Written UniqueTarget :=
  let lead := spaced (name.elim "" (printName none))
  match columns, name with
  | some columns, name =>
    ⟨.columns (name.map Name.text) columns.value, lead ++ spaced columns.text⟩
  | none, some name => ⟨.single name.text, lead⟩
  | none, none => ⟨.nothing, ""⟩

/-- A unique constraint; in PostgreSQL it is an index, elsewhere it may say what is done with
conflicts. -/
def uniqueClause (list : Reader (List (Written Element))) : Reader (Written Constraint) := do
  let isDistinct ← allSpelled ["NULLS", "NOT", "DISTINCT"]
  let name ← uniqueName
  let target := uniqueTarget name (← listedNames list)
  let tail ←
    if (← dialect) == .postgresql then indexParameters
    else
      let method ← if ← keyword "USING" then anyText else pure none
      let conflict ← conflictClause
      pure (method.elim "" (" USING " ++ ·) ++ conflict)
  let options ← keyOptions
  return ⟨.unique target.value,
    "UNIQUE" ++ (if isDistinct then " NULLS NOT DISTINCT" else "") ++ target.text ++ tail ++
      shownOptions options⟩

def uniqueKey : Reader (Written Constraint) := do
  let _ ← oneSpelled ["KEY", "INDEX"]
  let name ← if ← atConstraint then pure none else softName
  let method ← if ← keyword "USING" then anyText else pure none
  let parts ← if ← openList then some <$> wrapped (commaList keyPart) else pure none
  let options ← indexOptions
  let listed := parts.map fun parts : List KeyPart =>
    (⟨parts.map fun part => part.target.keyName,
      inParens (commaJoined (parts.map (KeyPart.print none)))⟩ : Written (List String))
  let target := uniqueTarget name listed
  return ⟨.unique target.value,
    "UNIQUE" ++ target.text ++ method.elim "" (" USING " ++ ·) ++ shownOptions options⟩

/-- A unique constraint behind its word. In SQLite the word stands alone in front of another
constraint. -/
def unique (list : Reader (List (Written Element))) : Reader (Written Constraint) := do
  match ← dialect with
  | .mysql => uniqueKey
  | .sqlite => if ← atConstraint then return ⟨.unique .nothing, "UNIQUE"⟩ else uniqueClause list
  | .postgresql => uniqueClause list

def foreignKeyAction : Reader (Option (String × String)) := do
  if ← keyword "ON" then
    match ← oneKeyword ["DELETE", "UPDATE"] with
    | none => fail "Expected DELETE or UPDATE"
    | some event =>
      if ← allSpelled ["NO", "ACTION"] then return some (event, "NO ACTION")
      else if ← keyword "SET" then
        return some (event, "SET " ++ ((← oneKeyword ["NULL", "DEFAULT"]).getD "SET"))
      else
        advance
        return some (event, ((← previous).map Token.upper).getD "")
  else return none

def foreignKey (list : Reader (List (Written Element))) : Reader (Written Constraint) := do
  let isReference := atKeyword "REFERENCES"
  if (← dialect) == .mysql && !(← openList) && !(← isReference) then
    let _ ← softName
  let columns ← if ← isReference then pure [] else nameList
  let target ← if ← keyword "REFERENCES" then some <$> reference list else pure none
  let actions ← sequence foreignKeyAction
  let options ← keyOptions
  let action := fun (event : String) => actions.reverse.lookup event
  let shown := fun (event : String) => (action event).elim "" (" ON " ++ event ++ " " ++ ·)
  return ⟨.foreignKey (columns.map Name.text) (target.map Written.value) (action "DELETE")
      (action "UPDATE"),
    "FOREIGN KEY" ++ (if columns.isEmpty then "" else " " ++ inParens (printNames columns)) ++
      target.elim "" (fun target => " " ++ target.text) ++ shown "DELETE" ++ shown "UPDATE" ++
      shownOptions options⟩

structure Counting where
  start : Option Expr := none
  step : Option Expr := none
  order : String := ""

def countingFrom : Nat → Counting → Reader Counting
  | 0, counting => return counting
  | bound + 1, counting => do
    if ← spelled "START" then
      countingFrom bound { counting with start := ← simpleValue }
    else if ← spelled "INCREMENT" then
      countingFrom bound { counting with step := ← simpleValue }
    else match ← oneSpelled ["ORDER", "NOORDER"] with
      | some word => countingFrom bound { counting with order := " " ++ word }
      | none => return counting

def shownSequence (parts : List (String × Option Expr)) (cycle : String) : String :=
  let shown := parts.filterMap fun (words, value) =>
    value.map fun value => words ++ " " ++ printed value
  let all := shown ++ (if cycle.isEmpty then [] else [cycle])
  if all.isEmpty then "" else " " ++ inParens (String.intercalate " " all)

def increment : Reader (Written Constraint) := do
  let counting ←
    if ← openList then
      let values ← wrapped (commaList simpleValue)
      pure { start := values.head?, step := values.tail.head? }
    else countingFrom (← remaining) {}
  if counting.start.isSome || counting.step.isSome then
    return ⟨.identity none, "GENERATED BY DEFAULT AS IDENTITY" ++
      shownSequence [("START WITH", counting.start), ("INCREMENT BY", counting.step)] ""⟩
  else return ⟨.autoIncrement, "AUTO_INCREMENT"⟩

def valueBehind (words : List String) : Reader (Option Expr) := do
  if ← allSpelled words then simpleValue else return none

def identityOptions (isIdentity : Bool) : Reader String := do
  let start ← valueBehind ["START", "WITH"]
  let step ← valueBehind ["INCREMENT", "BY"]
  let least ← valueBehind ["MINVALUE"]
  let most ← valueBehind ["MAXVALUE"]
  let cycle ←
    if ← spelled "CYCLE" then pure "CYCLE"
    else if ← allSpelled ["NO", "CYCLE"] then pure "NO CYCLE"
    else pure ""
  let isListed ← peekIs fun token => token.kind == .number
  let values ← if isIdentity && start.isNone && isListed then commaList simpleValue else pure []
  return shownSequence [("START WITH", start <|> values.head?),
    ("INCREMENT BY", step <|> values.tail.head?), ("MINVALUE", least), ("MAXVALUE", most)] cycle

/-- Whether a generated value is said to be computed. SQLite takes any for one, PostgreSQL has no
virtual ones. -/
def isComputed (value : Option Expr) : Reader Bool := do
  match ← dialect with
  | .postgresql => spelled "STORED"
  | .mysql => return (← oneSpelled ["STORED", "VIRTUAL"]).isSome
  | .sqlite =>
    let worded := (← oneSpelled ["STORED", "VIRTUAL"]).isSome
    return worded || value.isSome

def generatedRow : Reader (Written Constraint) := do
  let side := (← oneSpelled ["START", "END"]).getD "END"
  let hidden := if ← spelled "HIDDEN" then " HIDDEN" else ""
  return ⟨.other, "GENERATED ALWAYS AS ROW " ++ side ++ hidden⟩

/-- What GENERATED stands for; a computed value has no meaning for the schema. -/
def generated : Reader (Written Constraint) := do
  let manner ←
    if ← allSpelled ["BY", "DEFAULT"] then
      pure (if ← keywords ["ON", "NULL"] then " BY DEFAULT ON NULL" else " BY DEFAULT")
    else
      let _ ← spelled "ALWAYS"
      pure " ALWAYS"
  let _ ← keyword "AS"
  if ← spelled "ROW" then generatedRow
  else
    let isIdentity ← spelled "IDENTITY"
    let isOpen ← mark "("
    let options ← if isOpen then identityOptions isIdentity else pure ""
    let value ← if isOpen && !isIdentity then withGrammar range else pure none
    if isOpen then close
    let shown := value.elim "" printed
    return if ← isComputed value then ⟨.other, "AS " ++ inParens shown⟩
      else ⟨.identity value,
        "GENERATED" ++ manner ++ " AS " ++ (if value.isSome then inParens shown else "IDENTITY") ++
          options⟩

def collation : Reader (Written Constraint) := do
  match ← ofKind .quotedName with
  | some name => return ⟨.collate name, "COLLATE " ++ printName none ⟨name, true⟩⟩
  | none =>
    match ← withGrammar column with
    | some column => return ⟨.collate column.keyName, "COLLATE " ++ printed column⟩
    | none => fail "Expecting name"

def onClause : Reader (Written Constraint) := do
  if ← keyword "UPDATE" then
    match ← withGrammar Inner.call with
    | some value => return ⟨.onUpdate value, "ON UPDATE " ++ printed value⟩
    | none => fail "Expecting function"
  else return ⟨.other, "ON" ++ spaced ((← anyName).elim "" (printName none))⟩

def checked : Reader (Option (Written Constraint)) := do
  if ← openList then
    let condition ← wrapped (required expression)
    let enforced := if ← spelled "ENFORCED" then " ENFORCED" else ""
    return without ("CHECK " ++ inParens (printed condition) ++ enforced)
  else return none

def likeTable (list : Reader (List (Written Element))) : Reader (Option (Written Constraint)) := do
  let table ← tableName
  let _ ← listedNames list
  return without (String.intercalate " " (("LIKE " ++ table.text) :: (← likeOptions)))

def periodClause : Reader (Option (Written Constraint)) := do
  if ← allSpelled ["FOR", "SYSTEM_TIME"] then
    return without ("PERIOD FOR SYSTEM_TIME " ++ inParens (printNames (← nameList)))
  else return none

def watermark : Reader (Option (Written Constraint)) := do
  let column ← if ← keyword "FOR" then withGrammar column else pure none
  let value ← if ← keyword "AS" then expression else pure none
  return without ("WATERMARK FOR " ++ column.elim "" printed ++ " AS " ++ value.elim "" printed)

def denial : Reader (Option (Written Constraint)) := do
  if ← keyword "NULL" then return some ⟨.nullability false, "NOT NULL"⟩
  else if ← spelled "CASESPECIFIC" then return without "NOT CASESPECIFIC"
  else if ← allSpelled ["FOR", "REPLICATION"] then return without "NOT FOR REPLICATION"
  else return none

def withValue (words : String) (body : Reader (Option Expr)) : Reader (Option (Written Constraint)) := do
  return without (words ++ (← body).elim "" fun value => " " ++ printed value)

def withText (words : String) (body : Reader (Option String)) :
    Reader (Option (Written Constraint)) := do
  return without (words ++ (← body).elim "" (" " ++ ·))

/-- The constraint behind its first word; `none` where the word begins no constraint after all. -/
def constraintOf (list : Reader (List (Written Element))) (word : String) :
    Reader (Option (Written Constraint)) := do
  match word with
  | "AUTO_INCREMENT" | "AUTOINCREMENT" | "IDENTITY" => some <$> increment
  | "CHARACTER" | "CHAR" =>
    if ← spelled "SET" then withText "CHARACTER SET" wordOrString else return none
  | "CHARSET" => withText "CHARACTER SET" wordOrString
  | "FORMAT" | "TITLE" => withText word wordOrString
  | "ENCODE" => withText word plainWord
  | "PATH" => withText word (return (← stringText).map (printString none))
  | "CHECK" => checked
  | "COLLATE" => some <$> collation
  | "COMMENT" =>
    let text ← requiredString
    return some ⟨.comment text, "COMMENT " ++ printString none text⟩
  | "COMPRESS" =>
    if ← openList then
      return without ("COMPRESS " ++ inParens (commaPrinted (← wrapped (commaList simpleValue))))
    else withValue word simpleValue
  | "CLUSTERED" | "NONCLUSTERED" =>
    let columns ← wrapped (withGrammar fun inner => commaList (sortKeyOf inner.disjunction))
    return without (word ++ " " ++ inParens (commaPrinted columns))
  | "DEFAULT" =>
    let value ← required simpleValue
    return some ⟨.default value, "DEFAULT " ++ printed value⟩
  | "INLINE" =>
    let _ ← spelled "LENGTH"
    withValue "INLINE LENGTH" simpleValue
  | "EPHEMERAL" | "TTL" => withValue word simpleValue
  | "EXCLUDE" => return without ("EXCLUDE" ++ (← indexParameters))
  | "FOREIGN KEY" => some <$> foreignKey list
  | "GENERATED" => some <$> generated
  | "LIKE" => likeTable list
  | "NOT" => denial
  | "NULL" => return some ⟨.nullability true, "NULL"⟩
  | "ON" => some <$> onClause
  | "PERIOD" => periodClause
  | "PRIMARY KEY" => some <$> primaryKey
  | "REFERENCES" =>
    let target ← reference list
    return some ⟨.reference target.value, target.text⟩
  | "UNIQUE" => some <$> unique list
  | "UPPERCASE" | "CASESPECIFIC" | "ZEROFILL" | "VISIBLE" | "INVISIBLE" => return without word
  | "WATERMARK" => watermark
  | "WITH" =>
    return without ("WITH " ++ inParens (commaJoined ((← wrapped propertyList).map Property.print)))
  | "BUCKET" | "TRUNCATE" =>
    if ← openList then
      return without (word ++ inParens (commaPrinted (← wrapped (commaList expression))))
    else return none
  | "FULLTEXT" => some <$> index .fulltext
  | "SPATIAL" => some <$> index .spatial
  | "INDEX" | "KEY" => some <$> index .plain
  | _ => return none

def constraintAmong (list : Reader (List (Written Element))) (words : List String) :
    Reader (Option (Written Constraint)) := attempt do
  match ← oneSpelled words with
  | some word => constraintOf list word
  | none => return none

end DdlSchema.Ddl.Reader
