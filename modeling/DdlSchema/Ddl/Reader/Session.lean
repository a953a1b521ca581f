import DdlSchema.Ddl.Reader.Definition

/-! Reading statements about the session: its settings, its transactions, and the databases it uses.
They are never kept. -/

set_option autoImplicit false

namespace DdlSchema.Ddl.Reader

open DdlSchema.Text

def transactionManners : Options :=
  [("ISOLATION", ["LEVEL REPEATABLE READ", "LEVEL READ COMMITTED", "LEVEL READ UNCOMITTED",
    "LEVEL SERIALIZABLE"]), ("READ", ["WRITE", "ONLY"])]

def transactionSetting (scope : String) : Reader (Option String) := do
  let manners ← commaList (requiredOption transactionManners)
  return some (scope ++ "TRANSACTION " ++ commaJoined manners)

/-- A column whose name alone counts. -/
def settingValue (value : Expr) : String :=
  match value with
  | .column _ own | .name own => own.text
  | value => printed value

/-- A setting with its value; without a sign between them it is none. `nested` reads the value. -/
def givenSetting (nested : Reader (Option Expr)) (scope : String) : Reader (Option String) := attempt do
  let name ← oneOf [literal, withGrammar parenthesis, withGrammar Inner.column]
  let isGiven ← either (mark "=") (either (mark ":=") (spelled "TO"))
  match name, isGiven with
  | some name, true =>
    let word := return (← anyName).map Expr.name
    let value ← orElse nested word
    return some (scope ++ printed name ++ " = " ++ value.elim "" settingValue)
  | _, _ => return none

def scopedSetting (nested : Reader (Option Expr)) (scope : String) : Reader (Option String) := do
  let isTransaction ← if scope == "GLOBAL" || scope == "SESSION" then spelled "TRANSACTION"
    else pure false
  if isTransaction then transactionSetting (if scope == "GLOBAL" then "GLOBAL " else "")
  else givenSetting nested (scope ++ " ")

/-- A name, or a string as it is written, that stands for a character set. -/
def charsetValue : Reader String := do
  match ← stringText with
  | some text => return printString none text
  | none => return (← anyField .strict).elim "" fun value => match value with
    | .name name => if name.quoted then printName none name else name.text
    | value => printed value

def namesSetting : Reader (Option String) := do
  let name ← charsetValue
  let collation ← if ← keyword "COLLATE" then pure (" COLLATE " ++ (← charsetValue)) else pure ""
  return some ("NAMES " ++ name ++ collation)

def setting (nested : Reader (Option Expr)) : Reader (Option String) := do
  let isMysql := (← dialect) == .mysql
  let scopes := ["GLOBAL", "LOCAL", "SESSION"] ++ if isMysql then ["PERSIST", "PERSIST_ONLY"] else []
  match ← oneSpelled scopes with
  | some scope => scopedSetting nested scope
  | none =>
    if ← spelled "TRANSACTION" then transactionSetting ""
    else if !isMysql then givenSetting nested ""
    else if ← spelled "NAMES" then namesSetting
    else if ← either (allSpelled ["CHARACTER", "SET"]) (spelled "CHARSET") then
      return some ("CHARACTER SET " ++ (← charsetValue))
    else givenSetting nested ""

/-- What stands behind SET. `nested` reads a value, which may be a statement. -/
def settings (nested : Reader (Option Expr)) : Reader Outcome := do
  let items ← commaList (setting nested)
  return if ← isAtEnd then .other ("SET " ++ commaJoined items) else .verbatim

def transactionMode : Reader (Option String) := do
  let words ← sequence (orElse plainWord
    (return (← take? fun token => token.isWord "NOT").map Token.text))
  return if words.isEmpty then none else some (String.intercalate " " words)

def transactionStart : Reader String := do
  let _ ← oneSpelled ["DEFERRED", "IMMEDIATE", "EXCLUSIVE"]
  let _ ← oneSpelled ["TRANSACTION", "WORK"]
  return "BEGIN" ++ spaced (commaJoined (← commaList transactionMode))

def transactionEnd (word : String) : Reader String := do
  let _ ← oneSpelled ["TRANSACTION", "WORK"]
  let point ← if ← spelled "TO" then
    let _ ← spelled "SAVEPOINT"
    anyName else pure none
  let chain ← if ← keyword "AND" then
    let isDenied ← spelled "NO"
    let _ ← spelled "CHAIN"
    pure (if isDenied then " AND NO CHAIN" else " AND CHAIN") else pure ""
  if word == "ROLLBACK" then return word ++ point.elim "" (" TO " ++ printName none ·)
  else return word ++ chain

def pragmaValue : Reader String := do
  match ← orElse simpleValue (return (← anyName).map Expr.name) with
  | some value => return settingValue value
  | none => return ""

def pragma : Reader String := do
  let name ← tableName
  if ← mark "=" then return "PRAGMA " ++ name.text ++ " = " ++ (← pragmaValue)
  else if ← openList then return "PRAGMA " ++ name.text ++ " = " ++ (← wrapped pragmaValue)
  else return "PRAGMA " ++ name.text

def use : Reader String := do
  let kind ← knownOption [("ROLE", []), ("WAREHOUSE", []), ("DATABASE", []), ("SCHEMA", []),
    ("CATALOG", []), ("SECONDARY", ["ROLES ALL", "ROLES NONE"])]
  let table ← withGrammar fun inner => singleTable inner []
  return "USE" ++ kind.elim "" (" " ++ ·) ++ table.elim "" (" " ++ printed ·)

def attachedName : Reader (Option Expr) :=
  aliased true (oneOf [literal, withGrammar parenthesis, return (← anyName).map Expr.name])

def attachOption : Reader (Option String) := do
  match ← anyText with
  | none => return none
  | some word => return some (word ++ (← anyField .free).elim "" (" " ++ printed ·))

def attachment : Reader String := do
  let _ ← keyword "DATABASE"
  let absent ← whereAbsent
  let name ← attachedName
  let options ← if ← openList then wrapped (commaList attachOption) else pure []
  return "ATTACH" ++ absent ++ " " ++ name.elim "" printed ++
    (if options.isEmpty then "" else " " ++ inParens (commaJoined options))

def detachment : Reader String := do
  let _ ← keyword "DATABASE"
  let absent ← whereThere
  let name ← attachedName
  return "DETACH" ++ (if absent.isEmpty then "" else " DATABASE" ++ absent) ++ " " ++
    name.elim "" printed

def kill : Reader String := do
  let kind ← take? fun token => isSpelled "CONNECTION" token || isSpelled "QUERY" token
  let number ← orElse literal (withGrammar parenthesis)
  return "KILL" ++ kind.elim "" (" " ++ ·.text) ++ number.elim "" (" " ++ printed ·)

end DdlSchema.Ddl.Reader
