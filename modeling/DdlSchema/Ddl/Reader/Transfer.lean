import DdlSchema.Ddl.Reader.Change

/-! Reading statements that move rows between tables and files. They are never kept. -/

set_option autoImplicit false

namespace DdlSchema.Ddl.Reader

open DdlSchema.Text

def unquotedField : Reader (Option Expr) := do
  return (← anyField .strict).map fun value => match value with
    | .name name => if name.quoted then .name name else .word name.text
    | value => value

def copySetting : Reader (Option String) := do
  let isEnd ← atMark ")"
  let token ← peek
  if isEnd then return none
  else match token with
    | none => return none
    | some token =>
      advance
      let _ ← mark "="
      let _ ← keyword "AS"
      let value ← unquotedField
      let _ ← mark ","
      return some (token.text ++ value.elim "" (" " ++ printed ·))

def copySettings : Reader (List String) := do
  if ← openList then wrapped (sequence copySetting) else sequence copySetting

/-- What is copied: a query in parentheses, or a table. -/
def copiedRows : Reader String := do
  if ← openList then return (← withGrammar enclosedQuery).elim "" printed
  else return (← listedTable).text

def copy : Reader Outcome := do
  let _ ← keyword "INTO"
  let subject ← copiedRows
  let isFrom ← keyword "FROM"
  unless isFrom do
    let _ ← spelled "TO"
  let files ← commaList (anyField .strict)
  let _ ← spelled "WITH"
  let settings ← copySettings
  let direction := if isFrom then " FROM " else " TO "
  return if ← isAtEnd then .other ("COPY INTO " ++ subject ++
      (if files.isEmpty then " " else direction ++ commaPrinted files) ++
      (if settings.isEmpty then "" else " WITH " ++ inParens (commaJoined settings)))
    else .verbatim

def wordedString (word : String) : Reader String := do
  if ← spelled word then
    return " " ++ word ++ " " ++ (← stringText).elim "" (printString none)
  else return ""

def loading : Reader Outcome := do
  if ← spelled "DATA" then
    let place := if ← spelled "LOCAL" then " LOCAL" else ""
    let path ← wordedString "INPATH"
    let manner := if ← keyword "OVERWRITE" then " OVERWRITE" else ""
    let _ ← keywords ["INTO", "TABLE"]
    let table ← listedTable
    let partition ← withGrammar partList
    let format ← wordedString "INPUTFORMAT"
    let serde ← wordedString "SERDE"
    return .other ("LOAD DATA" ++ place ++ path ++ manner ++ " INTO TABLE " ++ table.text ++
      partition.elim "" (" " ++ printed ·) ++ format ++ serde)
  else return .verbatim

/-- Two strings that are an option of a table kept at hand. -/
def cacheOptions : Reader String := do
  if ← spelled "OPTIONS" then
    let shown := return (← stringText).elim "" (printString none)
    wrapped do
      let key ← shown
      let _ ← mark "="
      return " OPTIONS(" ++ key ++ " = " ++ (← shown) ++ ")"
  else return ""

def caching : Reader String := do
  let manner := if ← spelled "LAZY" then " LAZY" else ""
  let _ ← keyword "TABLE"
  let table ← listedTable
  let options ← cacheOptions
  let _ ← keyword "AS"
  let query ← withGrammar fillingQuery
  return "CACHE" ++ manner ++ " TABLE " ++ table.text ++ options ++
    query.elim "" fun query => " AS " ++ printed query

def uncaching : Reader String := do
  unless ← keyword "TABLE" do fail "Expecting TABLE after UNCACHE"
  let absent ← whereThere
  return "UNCACHE TABLE" ++ absent ++ " " ++ (← listedTable).text

end DdlSchema.Ddl.Reader
