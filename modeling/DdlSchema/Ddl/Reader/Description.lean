import DdlSchema.Ddl.Reader.Change

/-! Reading statements that ask for something about a table, or write it down. They are never
kept. -/

set_option autoImplicit false

namespace DdlSchema.Ddl.Reader

open DdlSchema.Text

/-- What is asked about: a query, rows, or a table with a list of its columns. -/
def describedRows : Reader String := do
  let rows ← withGrammar fun inner => oneOf [lateralTable inner, unnested inner, writtenRows inner true,
    inner.nestedTable]
  match rows with
  | some rows => return printed rows
  | none => return (← listedTable).text

def describedStyle : Reader String := do
  let isMember ← secondIs fun next => next.isMark "."
  if isMember then return ""
  else return (← oneSpelled ["ANALYZE", "EXTENDED", "FORMATTED", "HISTORY"]).elim "" (" " ++ ·)

/-- What stands behind DESCRIBE. `nested` reads a statement that begins with one of the words. -/
def description (words : List String) (nested : Reader (Option String)) : Reader String := do
  let _ ← oneKeyword (definableWords (← dialect))
  let style ← describedStyle
  let format ← if ← atKeyword "FORMAT" then propertyWith propertyList else pure none
  let isStatement ← peekIs fun token => token.isAnyWord words
  let subject ← if isStatement then pure ((← nested).getD "") else describedRows
  let _ ← properties
  let partition ← withGrammar partList
  let isDocument ← allSpelled ["AS", "JSON"]
  return "DESCRIBE" ++ style ++ shownOptions ((format.getD []).map Property.print) ++ " " ++ subject ++
    partition.elim "" (" " ++ printed ·) ++ (if isDocument then " AS JSON" else "")

def analysisStyle : Reader (Option String) := do
  match ← oneSpelled ["BUFFER_USAGE_LIMIT", "FULL", "LOCAL", "NO_WRITE_TO_BINLOG", "SAMPLE",
      "SKIP_LOCKED", "VERBOSE"] with
  | some "BUFFER_USAGE_LIMIT" => return some ("BUFFER_USAGE_LIMIT " ++ (← ofKind .number).getD "None")
  | style => return style

def histogramManner : Reader (Option String) := do
  if ← keyword "WITH" then
    match ← oneSpelled ["SYNC", "ASYNC"] with
    | some word => return if ← spelled "MODE" then some (word ++ " MODE") else some ""
    | none =>
      let count := (← ofKind .number).getD ""
      return if ← spelled "BUCKETS" then some (count ++ " BUCKETS") else some ""
  else return none

def histogram (word : String) : Reader String := do
  if ← allSpelled ["HISTOGRAM", "ON"] then
    let columns ← commaList (withGrammar columnReference)
    let manners := (← sequence histogramManner).filter fun manner => !manner.isEmpty
    let shown := if manners.isEmpty then "" else " WITH " ++ String.intercalate " " manners
    let update := (← onePhrase ["MANUAL UPDATE", "AUTO UPDATE"]).elim "" (" " ++ ·)
    let isData ← if update.isEmpty then allSpelled ["USING", "DATA"] else pure false
    let source ← if isData then pure (" USING DATA " ++ (← stringText).elim "" (printString none))
      else pure shown
    return word ++ " HISTOGRAM ON " ++ commaPrinted columns ++ source ++ update
  else return word ++ " HISTOGRAM ON "

def statistics (word : String) : Reader String := do
  let option := if ← spelled "DELTA" then " DELTA" else ""
  unless ← spelled "STATISTICS" do fail "Expecting token STATISTICS"
  let lead := word ++ option ++ " STATISTICS"
  if ← spelled "NOSCAN" then return lead ++ " NOSCAN"
  else if ← keyword "FOR" then
    if ← allSpelled ["ALL", "COLUMNS"] then return lead ++ " FOR ALL COLUMNS"
    else if ← spelled "COLUMNS" then
      return lead ++ " FOR COLUMNS" ++ spaced (commaPrinted (← commaList (withGrammar columnReference)))
    else return lead
  else if ← spelled "SAMPLE" then
    let count := (← ofKind .number).getD ""
    return lead ++ " SAMPLE " ++ count ++ (if ← keyword "PERCENT" then " PERCENT" else "")
  else return lead

/-- What is gathered, behind its first word; the word is taken even where nothing follows that is
known. -/
def analysed : Reader (Option String) := do
  match ← oneSpelled ["ALL", "COMPUTE", "DELETE", "DROP", "ESTIMATE", "PREDICATE", "UPDATE"] with
  | none => return none
  | some word =>
    if word == "DROP" || word == "UPDATE" then some <$> histogram word
    else if word == "COMPUTE" || word == "ESTIMATE" then some <$> statistics word
    else if word == "DELETE" then
      let kind := if ← spelled "SYSTEM" then " SYSTEM" else ""
      return if ← spelled "STATISTICS" then some ("DELETE" ++ kind ++ " STATISTICS") else some ""
    else return if ← spelled "COLUMNS" then some (word ++ " COLUMNS") else some ""

def analysedPart : Reader String := do
  let named := return ((← withGrammar tableSource).elim "" printed)
  if ← keyword "TABLE" then return " TABLE " ++ (← named)
  else if ← keyword "INDEX" then return " INDEX " ++ (← named)
  else if ← spelled "TABLES" then
    match ← oneKeyword ["FROM", "IN"] with
    | some word => return " TABLES " ++ word ++ " " ++ (← listedTable).text
    | none => return " TABLES"
  else if ← spelled "DATABASE" then return " DATABASE " ++ (← listedTable).text
  else if ← spelled "CLUSTER" then
    return " CLUSTER" ++ ((← withGrammar fun inner => singleTable inner []).elim "" (" " ++ printed ·))
  else match ← analysed with
    | some inner => return spaced inner
    | none =>
      match ← withGrammar tableSource with
      | some table => return " " ++ printed table
      | none => fail "Expected table name"

def analysis : Reader Outcome := do
  if ← isAtEnd then return .other "ANALYZE"
  else
    let styles ← sequence analysisStyle
    let part ← analysedPart
    let partition ← attemptAll (withGrammar partList)
    let opened ← if partition.isNone then oneSpelled ["PARTITION", "SUBPARTITION"] else pure none
    if opened.isSome then return .verbatim
    else
      let mode := (← onePhrase ["WITH SYNC MODE", "WITH ASYNC MODE"]).elim "" (" " ++ ·)
      let inner := spaced ((← analysed).getD "")
      let options ← properties
      return .other ("ANALYZE" ++ shownOptions styles ++ part ++ partition.elim "" (" " ++ printed ·) ++
        mode ++ inner ++ shownTail options)

def commented? (kind : String) : Reader String := do
  match kind with
  | "FUNCTION" | "PROCEDURE" => functionHead
  | "TABLE" => return (← withGrammar fun inner => singleTable inner ["IS"]).elim "" printed
  | "COLUMN" => return (← withGrammar Inner.column).elim "" printed
  | _ => return (← anyName).elim "" (printName none)

def remarkStatement : Reader Outcome := do
  let words := definableWords (← dialect)
  let absent ← whereThere
  let _ ← keyword "ON"
  let isMaterialized ← spelled "MATERIALIZED"
  match ← take? fun token => token.isAnyWord words with
  | none => return .verbatim
  | some kind =>
    let subject ← commented? kind.upper
    let _ ← keyword "IS"
    return .other ("COMMENT" ++ absent ++ " ON" ++ (if isMaterialized then " MATERIALIZED " else " ") ++
      kind.text ++ " " ++ subject ++ " IS " ++ (← stringText).elim "" (printString none))

/-- What MySQL can show, with what may follow it: nothing, a name behind a word, or a name alone. -/
inductive ShownTarget where
  | none
  | behind (word : String)
  | named
  deriving DecidableEq

def shownThings : List (String × ShownTarget) :=
  let plain := ["BINARY LOGS", "MASTER LOGS", "BINLOG EVENTS", "CHARACTER SET", "CHARSET",
    "COLLATION", "DATABASES", "SCHEMAS", "STORAGE ENGINES", "ENGINES", "ERRORS", "EVENTS",
    "FUNCTION STATUS", "MASTER STATUS", "OPEN TABLES", "PLUGINS", "PROCEDURE STATUS", "PRIVILEGES",
    "FULL PROCESSLIST", "PROCESSLIST", "PROFILE", "PROFILES", "RELAYLOG EVENTS", "REPLICAS",
    "SLAVE HOSTS", "REPLICA STATUS", "SLAVE STATUS", "GLOBAL STATUS", "SESSION STATUS", "STATUS",
    "TABLE STATUS", "FULL TABLES", "TABLES", "TRIGGERS", "GLOBAL VARIABLES", "SESSION VARIABLES",
    "VARIABLES", "WARNINGS"]
  let named := ["CREATE DATABASE", "CREATE EVENT", "CREATE FUNCTION", "CREATE PROCEDURE",
    "CREATE TABLE", "CREATE TRIGGER", "CREATE VIEW", "ENGINE", "FUNCTION CODE", "PROCEDURE CODE"]
  plain.map (·, ShownTarget.none) ++ named.map (·, ShownTarget.named) ++
    [("FULL COLUMNS", .behind "FROM"), ("COLUMNS", .behind "FROM"), ("GRANTS", .behind "FOR"),
      ("INDEX", .behind "FROM")]

def shownTarget (target : ShownTarget) : Reader Unit := do
  match target with
  | .none => return
  | .named =>
    let _ ← anyName
  | .behind word =>
    let _ ← spelled word
    let _ ← anyName

def shownLimits (thing : String) : Reader Unit := do
  if thing == "PROFILE" then
    let _ ← commaList (requiredOption [("ALL", []), ("BLOCK", ["IO"]), ("CONTEXT", ["SWITCHES"]),
      ("CPU", []), ("IPC", []), ("MEMORY", []), ("PAGE", ["FAULTS"]), ("SOURCE", []), ("SWAPS", [])])
    for words in [["FOR", "QUERY"], ["OFFSET"], ["LIMIT"]] do
      if ← allSpelled words then
        let _ ← ofKind .number
  else if ← keyword "LIMIT" then
    let _ ← commaList (ofKind .number)

def showing : Reader Outcome := do
  match ← onePhrase (shownThings.map Prod.fst) with
  | none => return .verbatim
  | some thing =>
    let _ ← spelled "JSON"
    shownTarget ((shownThings.lookup thing).getD .none)
    if ← keyword "IN" then
      let _ ← stringText
    if ← keyword "FROM" then
      let isPosition := thing == "BINLOG EVENTS" || thing == "RELAYLOG EVENTS"
      let _ ← if isPosition then ofKind .number else anyText
    else if ← mark "." then
      let _ ← anyName
    if ← allSpelled ["FOR", "CHANNEL"] then
      let _ ← anyName
    if ← keyword "LIKE" then
      let _ ← stringText
    let _ ← whereClause
    shownLimits thing
    let _ ← spelled "MUTEX"
    let _ ← spelled "STATUS"
    return .other ""

end DdlSchema.Ddl.Reader
